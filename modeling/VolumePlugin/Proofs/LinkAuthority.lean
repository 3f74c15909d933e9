/-
# Authorities of links

The number of a page is read from the query of a link, and a link whose query names no number is an
answer of the provider that was not expected. The query is not looked at, however, where the
authority of the link is not sound, as a link is taken apart before it is known whether it names a
page.

An authority is sound if its brackets, where it has some, enclose the address of a host, and if no
character in it hides a delimiter. Links without brackets and such characters always have a sound
authority.
-/
import VolumePlugin.Proofs.NumeralGrammar
import VolumePlugin.Proofs.Outcome
import VolumePlugin.Proofs.PageAddress

namespace VolumePlugin

namespace Url

variable {stop : Char} {text front back place host behind authority url : List Char}

/-! ## Hosts of places -/

/-- What is left of a text behind the span in front of a character: nothing, or the character and
what follows. -/
def StartsAt (stop : Char) (back : List Char) : Prop :=
  back = [] ∨ back.head? = some stop

/-- A text is parted by the span in front of a character, and in no other way. -/
theorem span_eq_iff :
    text.span (· ≠ stop) = (front, back) ↔
      text = front ++ back ∧ stop ∉ front ∧ StartsAt stop back := by
  rw [List.span_eq_takeWhile_dropWhile, Prod.mk.injEq]
  constructor
  · rintro ⟨rfl, rfl⟩
    refine ⟨List.takeWhile_append_dropWhile.symm, ?_, ?_⟩
    · intro hstop
      simpa using List.mem_takeWhile_imp hstop
    · unfold StartsAt
      cases hback : text.dropWhile (· ≠ stop) with
      | nil => exact .inl rfl
      | cons c rest =>
          have hfirst := List.head?_dropWhile_not (fun c => decide (c ≠ stop)) text
          rw [hback] at hfirst
          simpa using hfirst
  · rintro ⟨rfl, hfront, hback⟩
    have hall : ∀ c ∈ front, decide (c ≠ stop) = true := by
      intro c hc
      apply decide_eq_true
      rintro rfl
      exact hfront hc
    rw [List.takeWhile_append_of_pos hall, List.dropWhile_append_of_pos hall]
    rcases hback with rfl | hstop
    · simp
    · cases back with
      | nil => cases hstop
      | cons c rest => simp_all

/-- The host that a place gives: what its brackets enclose, where nothing stands in front of them
and at most a number behind them, or what stands in front of its number. The closing bracket may
be missing. -/
inductive GivesHost : List Char → List Char → Prop
  | enclosed {host behind : List Char} (hhost : ']' ∉ host) (hbehind : StartsAt ':' behind) :
      GivesHost ('[' :: (host ++ ']' :: behind)) host
  | unclosed {host : List Char} (hhost : ']' ∉ host) : GivesHost ('[' :: host) host
  | plain {host behind : List Char} (hopen : '[' ∉ host ++ behind) (hhost : ':' ∉ host)
      (hbehind : StartsAt ':' behind) : GivesHost (host ++ behind) host

/-- In a place without an opening bracket the host is what stands in front of the number. -/
theorem givesHost_plain_iff (hopen : '[' ∉ place) :
    GivesHost place host ↔ place.takeWhile (· ≠ ':') = host := by
  have hspan : ∀ behind, place.span (· ≠ ':') = (host, behind) ↔
      place.takeWhile (· ≠ ':') = host ∧ place.dropWhile (· ≠ ':') = behind := by
    intro behind
    rw [List.span_eq_takeWhile_dropWhile, Prod.mk.injEq]
  constructor
  · intro hgives
    cases hgives with
    | enclosed | unclosed => exact (hopen List.mem_cons_self).elim
    | plain _ hhost hbehind => exact ((hspan _).1 (span_eq_iff.2 ⟨rfl, hhost, hbehind⟩)).1
  · intro hfront
    obtain ⟨hplace, hhost, hbehind⟩ := span_eq_iff.1 ((hspan _).2 ⟨hfront, rfl⟩)
    rw [hplace] at hopen ⊢
    exact .plain hopen hhost hbehind

/-- In a place with an opening bracket nothing stands in front of it, and the host is what stands in
front of the closing one. -/
theorem givesHost_opened_iff {inside : List Char} (hfront : '[' ∉ front) :
    GivesHost (front ++ '[' :: inside) host ↔
      front = [] ∧ ∃ closed, inside.span (· ≠ ']') = (host, closed) ∧
        StartsAt ':' (closed.drop 1) := by
  constructor
  · intro hgives
    generalize hplace : front ++ '[' :: inside = place at hgives
    have hnone (rest : List Char) (hfirst : front ++ '[' :: inside = '[' :: rest) :
        front = [] ∧ inside = rest := by
      cases front with
      | nil => exact ⟨rfl, List.tail_eq_of_cons_eq hfirst⟩
      | cons c others =>
          obtain ⟨rfl, -⟩ := List.cons_eq_cons.1 hfirst
          exact (hfront List.mem_cons_self).elim
    cases hgives with
    | @enclosed _ behind hhost hbehind =>
        obtain ⟨rfl, rfl⟩ := hnone _ hplace
        exact ⟨rfl, ']' :: behind, span_eq_iff.2 ⟨rfl, hhost, .inr rfl⟩, hbehind⟩
    | unclosed hhost =>
        obtain ⟨rfl, rfl⟩ := hnone _ hplace
        exact ⟨rfl, [], span_eq_iff.2 ⟨(List.append_nil _).symm, hhost, .inl rfl⟩, .inl rfl⟩
    | plain hopen =>
        rw [← hplace] at hopen
        exact (hopen (by simp)).elim
  · rintro ⟨rfl, closed, hspan, hbehind⟩
    obtain ⟨rfl, hhost, hclosed⟩ := span_eq_iff.1 hspan
    cases closed with
    | nil => simpa using GivesHost.unclosed hhost
    | cons c behind =>
        obtain rfl : c = ']' := by simpa [StartsAt] using hclosed
        exact .enclosed hhost hbehind

/-- The host is found just where the place gives it. -/
theorem enclosedHost?_eq_some_iff : enclosedHost? place = some host ↔ GivesHost place host := by
  obtain ⟨⟨front, opened⟩, hspan⟩ : ∃ parts, place.span (· ≠ '[') = parts := ⟨_, rfl⟩
  obtain ⟨rfl, hfront, hopened⟩ := span_eq_iff.1 hspan
  unfold enclosedHost?
  rw [hspan]
  cases opened with
  | nil =>
      rw [List.append_nil, givesHost_plain_iff hfront]
      simp
  | cons c inside =>
      obtain rfl : c = '[' := by simpa [StartsAt] using hopened
      rw [givesHost_opened_iff hfront]
      obtain ⟨⟨host, closed⟩, hinside⟩ : ∃ parts, inside.span (· ≠ ']') = parts := ⟨_, rfl⟩
      dsimp only
      rw [hinside]
      simp only [Option.ite_none_right_eq_some, Option.some.injEq, Prod.mk.injEq, StartsAt]
      constructor
      · rintro ⟨⟨hempty, hbehind⟩, rfl⟩
        exact ⟨hempty, closed, ⟨rfl, rfl⟩, hbehind⟩
      · rintro ⟨hempty, _, ⟨rfl, rfl⟩, hbehind⟩
        exact ⟨⟨hempty, hbehind⟩, rfl⟩

/-- A host that may stand in brackets: an address of a later version of the protocol, which is told
by its letter, or an IPv6 address. -/
inductive IsAddress : List Char → Prop
  | future {rest : List Char} (hform : isFutureAddress rest = true) : IsAddress ('v' :: rest)
  | ipv6 {host : List Char} (hletter : host.head? ≠ some 'v') (hdotted : isIpv4 host = false)
      (hform : isIpv6 host = true) : IsAddress host

theorem hostFault?_eq_none_iff : hostFault? host = none ↔ IsAddress host := by
  unfold hostFault?
  split
  · rename_i rest
    constructor
    · intro hnone
      exact .future (by simpa using hnone)
    · intro haddress
      cases haddress with
      | future hform => simp [hform]
      | ipv6 hletter => exact (hletter rfl).elim
  · rename_i hletter
    constructor
    · intro hnone
      have hother : host.head? ≠ some 'v' := by
        intro hfirst
        obtain ⟨rest, rfl⟩ := List.head?_eq_some_iff.1 hfirst
        exact hletter rest rfl
      by_cases hdotted : isIpv4 host = true
      · simp [hdotted] at hnone
      · rw [Bool.not_eq_true] at hdotted
        exact .ipv6 hother hdotted (by simpa [hdotted] using hnone)
    · intro haddress
      cases haddress with
      | future => exact (hletter _ rfl).elim
      | ipv6 _ hdotted hform => simp [hdotted, hform]

/-! ## Sound authorities -/

/-- An authority whose brackets come together, and then enclose the address of its host, and that
holds no character which hides a delimiter. -/
structure IsSound (authority : List Char) : Prop where
  paired : '[' ∈ authority ↔ ']' ∈ authority
  addressed : '[' ∈ authority → ∃ host, GivesHost (placeOf authority) host ∧ IsAddress host
  plain : ∀ c ∈ authority, c.toNat ∉ hiddenDelimiters

theorem bracketFault?_eq_none_iff :
    bracketFault? authority = none ↔ ('[' ∈ authority ↔ ']' ∈ authority) ∧
      ('[' ∈ authority → ∃ host, GivesHost (placeOf authority) host ∧ IsAddress host) := by
  simp only [← enclosedHost?_eq_some_iff, ← hostFault?_eq_none_iff]
  unfold bracketFault?
  by_cases hopen : '[' ∈ authority
  · by_cases hclosed : ']' ∈ authority
    · cases enclosedHost? (placeOf authority) <;> simp [hopen, hclosed]
    · simp [hopen, hclosed]
  · simp [hopen]

/-- An authority has no fault just where it is sound. -/
theorem authorityFault?_eq_none_iff : authorityFault? authority = none ↔ IsSound authority := by
  unfold authorityFault?
  rw [Option.or_eq_none_iff, bracketFault?_eq_none_iff, ite_eq_right_iff]
  simp only [reduceCtorEq, imp_false, List.any_eq_true, List.contains_iff_mem, not_exists, not_and]
  constructor
  · rintro ⟨⟨hpaired, haddressed⟩, hplain⟩
    exact ⟨hpaired, haddressed, hplain⟩
  · rintro ⟨hpaired, haddressed, hplain⟩
    exact ⟨⟨hpaired, haddressed⟩, hplain⟩

/-! ## Queries -/

/-- The authority of a URL, and what follows it. -/
def parted (url : List Char) : List Char × List Char :=
  splitAuthority (afterScheme
    ((url.dropWhile isControlOrSpace).filter fun c => !isTabOrLineEnd c))

/-- A URL can be taken apart where its authority is sound. -/
def HasSoundAuthority (url : List Char) : Prop :=
  IsSound (parted url).1

theorem query_eq_parted (url : List Char) :
    query url =
      match authorityFault? (parted url).1 with
      | some fault => .error fault
      | none => .ok (queryPart (parted url).2) := rfl

/-- A scheme is cut off in front. -/
theorem afterScheme_subset (url : List Char) : afterScheme url ⊆ url := by
  unfold afterScheme
  rw [List.span_eq_takeWhile_dropWhile]
  dsimp only
  split
  · rename_i rest hrest
    split
    · intro c hc
      have hkept : c ∈ url.dropWhile (· ≠ ':') := by
        rw [hrest]
        exact List.mem_cons_of_mem _ hc
      exact (List.dropWhile_sublist _).subset hkept
    · exact List.Subset.refl _
  · exact List.Subset.refl _

theorem splitAuthority_subset (url : List Char) : (splitAuthority url).1 ⊆ url := by
  unfold splitAuthority
  split
  · rename_i rest
    rw [List.span_eq_takeWhile_dropWhile]
    intro c hc
    exact List.mem_cons_of_mem _ (List.mem_cons_of_mem _ ((List.takeWhile_sublist _).subset hc))
  · exact List.nil_subset _

/-- The characters of an authority are characters of the URL. -/
theorem authority_subset (url : List Char) : (parted url).1 ⊆ url := by
  intro c hc
  have hcleaned := afterScheme_subset _ (splitAuthority_subset _ hc)
  exact (List.dropWhile_sublist _).subset (List.mem_filter.1 hcleaned).1

/-- A URL without brackets and hidden delimiters has a sound authority. -/
theorem hasSoundAuthority_of_ordinary
    (hordinary : ∀ c ∈ url, c ≠ '[' ∧ c ≠ ']' ∧ c.toNat ∉ hiddenDelimiters) :
    HasSoundAuthority url := by
  have hopen : '[' ∉ (parted url).1 := fun hmember =>
    (hordinary _ (authority_subset url hmember)).1 rfl
  have hclosed : ']' ∉ (parted url).1 := fun hmember =>
    (hordinary _ (authority_subset url hmember)).2.1 rfl
  exact ⟨iff_of_false hopen hclosed, fun hmember => (hopen hmember).elim,
    fun c hc => (hordinary c (authority_subset url hc)).2.2⟩

/-- A URL names the page whose numeral is the first value of this name in its query. -/
def NamesPage (url : List Char) (page : Int) : Prop :=
  ∃ value, field? (queryPart (parted url).2) "page".toList = some value ∧
    Numeral.Spells value page

theorem pageInQuery?_eq_some_iff {page : Int} :
    PageLinks.pageInQuery? (queryPart (parted url).2) = some page ↔ NamesPage url page := by
  simp only [PageLinks.pageInQuery?, Option.bind_eq_some_iff, Numeral.read?_eq_some_iff, NamesPage]

end Url

namespace PageLinks

open Url

/-- What is said of a link that names no page. -/
def namelessLink (url : String) : Failure :=
  .unexpectedAnswer (.text url) (.text "page link without a page number")

section PagesOfUrls

variable {url : String}

/-- With a sound authority the query decides. -/
theorem pageOfUrl_of_sound (hsound : HasSoundAuthority url.toList) :
    pageOfUrl url =
      match pageInQuery? (queryPart (parted url.toList).2) with
      | some page => .ok page
      | none => .error (namelessLink url) := by
  unfold pageOfUrl
  rw [query_eq_parted, authorityFault?_eq_none_iff.2 hsound]
  rfl

/-- Without a sound authority the query is not looked at. -/
theorem pageOfUrl_of_not_sound (hunsound : ¬ HasSoundAuthority url.toList) :
    ∃ fault, pageOfUrl url = .error (.badUrl fault) := by
  rw [HasSoundAuthority, ← authorityFault?_eq_none_iff] at hunsound
  obtain ⟨fault, hfault⟩ := Option.ne_none_iff_exists'.1 hunsound
  unfold pageOfUrl
  rw [query_eq_parted, hfault]
  exact ⟨fault, rfl⟩

theorem pageOfUrl_eq_ok_iff {page : Int} :
    pageOfUrl url = .ok page ↔ HasSoundAuthority url.toList ∧ NamesPage url.toList page := by
  by_cases hsound : HasSoundAuthority url.toList
  · rw [pageOfUrl_of_sound hsound, ← pageInQuery?_eq_some_iff]
    cases pageInQuery? (queryPart (parted url.toList).2) <;> simp [hsound]
  · obtain ⟨fault, hfault⟩ := pageOfUrl_of_not_sound hsound
    simp [hfault, hsound]

theorem pageOfUrl_eq_nameless_iff :
    pageOfUrl url = .error (namelessLink url) ↔
      HasSoundAuthority url.toList ∧ ∀ page, ¬ NamesPage url.toList page := by
  by_cases hsound : HasSoundAuthority url.toList
  · rw [pageOfUrl_of_sound hsound]
    simp only [← pageInQuery?_eq_some_iff]
    cases pageInQuery? (queryPart (parted url.toList).2) <;> simp [hsound]
  · obtain ⟨fault, hfault⟩ := pageOfUrl_of_not_sound hsound
    simp [hfault, hsound, namelessLink]

theorem pageOfUrl_badUrl_iff :
    (∃ fault, pageOfUrl url = .error (.badUrl fault)) ↔ ¬ HasSoundAuthority url.toList := by
  refine ⟨fun hbad hsound => ?_, pageOfUrl_of_not_sound⟩
  obtain ⟨fault, hfault⟩ := hbad
  rw [pageOfUrl_of_sound hsound] at hfault
  cases hpage : pageInQuery? (queryPart (parted url.toList).2) <;>
    simp [hpage, namelessLink] at hfault

/-- The page of a URL is named, or the provider is to blame, just where the authority is sound. -/
theorem failsAs_pageOfUrl_iff :
    FailsAs (fun failure => ∃ url body, failure = .unexpectedAnswer url body) (pageOfUrl url) ↔
      HasSoundAuthority url.toList := by
  by_cases hsound : HasSoundAuthority url.toList
  · rw [pageOfUrl_of_sound hsound]
    cases pageInQuery? (queryPart (parted url.toList).2) <;> simp [hsound, namelessLink]
  · obtain ⟨fault, hfault⟩ := pageOfUrl_of_not_sound hsound
    simp [hfault, hsound]

end PagesOfUrls

/-- Links that are texts. -/
def ofTexts (first prev next last : String) : PageLinks :=
  ⟨.text first, .text prev, .text next, .text last⟩

/-- The link that the number of a page is read from, if there is one, and how far the page is behind
the linked one. -/
def linkInUse? (prev next : String) : Option (String × Int) :=
  if prev ≠ "" then some (prev, 1) else if next ≠ "" then some (next, -1) else none

/-- Without a link in use the page is the first one, and otherwise it is found from the link. -/
theorem currentPage_ofTexts (first prev next last : String) :
    (ofTexts first prev next last).currentPage =
      match linkInUse? prev next with
      | some (url, shift) => do return (← pageOfUrl url) + shift
      | none => .ok firstPage := by
  unfold currentPage ofTexts linkInUse?
  by_cases hprev : prev = ""
  · by_cases hnext : next = ""
    · simp [hprev, hnext, Value.truthy]
    · simp [hprev, hnext, Value.truthy, pageOfLink, Int.sub_eq_add_neg]
  · simp [hprev, Value.truthy, pageOfLink]

theorem shifted_eq_ok_iff {rule : Except Failure Int} {shift page : Int} :
    (do return (← rule) + shift : Except Failure Int) = .ok page ↔ rule = .ok (page - shift) := by
  cases rule with
  | error failure => exact iff_of_false nofun nofun
  | ok found =>
      simp only [ok_bind, pure, Except.pure, Except.ok.injEq]
      omega

theorem shifted_eq_error_iff {rule : Except Failure Int} {shift : Int} {failure : Failure} :
    (do return (← rule) + shift : Except Failure Int) = .error failure ↔
      rule = .error failure := by
  cases rule with
  | error other => rfl
  | ok found => exact iff_of_false nofun nofun

theorem failsAs_shifted_iff {kind : Failure → Prop} {rule : Except Failure Int} {shift : Int} :
    FailsAs kind (do return (← rule) + shift : Except Failure Int) ↔ FailsAs kind rule := by
  rw [failsAs_bind_iff]
  exact and_iff_left fun _ _ => failsAs_pure _

/-- What becomes of links of any text. The number of the page is found or the provider is to blame
just where the link in use, if there is one, has a sound authority, which any has without brackets
and hidden delimiters. The page then is the one that the query names, moved by one, and a query that
names none is the provider's mistake; a link without a sound authority is no URL, whatever page it
names. -/
theorem page_of_links_found_iff (first prev next last : String) :
    (FailsAs (fun failure => ∃ url body, failure = .unexpectedAnswer url body)
        (ofTexts first prev next last).currentPage ↔
      ∀ url shift, linkInUse? prev next = some (url, shift) → HasSoundAuthority url.toList) ∧
    (linkInUse? prev next = none →
      (ofTexts first prev next last).currentPage = .ok firstPage) ∧
    ∀ url shift, linkInUse? prev next = some (url, shift) →
      (∀ page, (ofTexts first prev next last).currentPage = .ok page ↔
        HasSoundAuthority url.toList ∧ NamesPage url.toList (page - shift)) ∧
      ((ofTexts first prev next last).currentPage = .error (namelessLink url) ↔
        HasSoundAuthority url.toList ∧ ∀ page, ¬ NamesPage url.toList page) ∧
      ((∃ fault, (ofTexts first prev next last).currentPage = .error (.badUrl fault)) ↔
        ¬ HasSoundAuthority url.toList) ∧
      ((∀ c ∈ url.toList, c ≠ '[' ∧ c ≠ ']' ∧ c.toNat ∉ hiddenDelimiters) →
        HasSoundAuthority url.toList) := by
  rw [currentPage_ofTexts]
  cases linkInUse? prev next with
  | none => simp
  | some link =>
      obtain ⟨url, shift⟩ := link
      dsimp only
      refine ⟨?_, nofun, ?_⟩
      · rw [failsAs_shifted_iff, failsAs_pageOfUrl_iff]
        constructor
        · rintro hsound _ _ ⟨⟩
          exact hsound
        · exact fun hsound => hsound url shift rfl
      · rintro _ _ ⟨⟩
        simp only [shifted_eq_ok_iff, shifted_eq_error_iff, pageOfUrl_eq_ok_iff,
          pageOfUrl_eq_nameless_iff, pageOfUrl_badUrl_iff, implies_true, true_and]
        exact hasSoundAuthority_of_ordinary

/-- A link with a page that is no numeral is the provider's mistake. -/
theorem misspelled_page_blamed :
    FailsAs (fun failure => ∃ url body, failure = .unexpectedAnswer url body)
      (ofTexts "" "https://a.example/v2/volumes?page=%zz" "" "").currentPage := by
  have hordinary : ("https://a.example/v2/volumes?page=%zz".toList.all fun c =>
      c != '[' && c != ']' && !hiddenDelimiters.contains c.toNat) = true := by decide
  obtain ⟨hfound, -, hcases⟩ :=
    page_of_links_found_iff "" "https://a.example/v2/volumes?page=%zz" "" ""
  refine hfound.2 fun url shift hlink => ?_
  obtain ⟨-, -, -, hsound⟩ := hcases url shift hlink
  cases hlink
  refine hsound fun c hc => ?_
  have hc := List.all_eq_true.1 hordinary c hc
  simp only [Bool.and_eq_true, bne_iff_ne, Bool.not_eq_true', ← Bool.not_eq_true,
    List.contains_iff_mem] at hc
  exact ⟨hc.1.1, hc.1.2, hc.2⟩

/-- A link with one bracket is no URL, though its query names a page. -/
theorem unclosed_bracket_escapes :
    NamesPage "https://[/v2/volumes?page=2".toList 2 ∧
      (ofTexts "" "https://[/v2/volumes?page=2" "" "").currentPage =
        .error (.badUrl .misplacedBracket) := by
  refine ⟨⟨"2".toList, by decide +kernel, ?_⟩, by decide +kernel⟩
  exact Numeral.read?_eq_some_iff.1 (by decide)

end PageLinks

end VolumePlugin
