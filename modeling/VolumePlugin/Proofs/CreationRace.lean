/-
# Creations that race

A creation asks for the volumes of its name, and posts a new one where it was shown none. Nothing
holds these two requests together. Where several calls for one name are under way at once, their
requests come to the provider in any order, and it may take up more than one volume of the name.

What a call sends next depends on the replies that it has heard, and on no other call. The volumes
of the name only grow in number. So a call that asks for them behind the first creation is shown
one and posts nothing, and each volume is due to a call that had asked before.
-/
import Mathlib.Data.Finset.Card
import VolumePlugin.Proofs.CreationOnce
import VolumePlugin.Proofs.CreationSteps

namespace VolumePlugin

/-! ## Requests in any order -/

/-- Calls for volumes of one name in one region, and what the provider at an address keeps before
them: no volume of the name. -/
structure Race (ι : Type) where
  address : String
  region : Value
  name : Value
  store : Store
  contender : ι → Contender
  named : ∀ i, (contender i).request.name = name
  located : ∀ i, (contender i).service.region = region
  absent : store.ofName region name = []

/-- A request of a call that was served, with its reply, and what the provider kept before it and
behind it. -/
structure Move (ι : Type) where
  caller : ι
  request : Request
  reply : Reply
  before : Store
  after : Store

variable {ι : Type}

/-- Whether a move has no effect. -/
def Move.isIdle (move : Move ι) : Bool :=
  decide (move.after = move.before)

/-- Whether a move asks for volumes and is shown a page. -/
def Move.isListing (move : Move ι) : Bool :=
  decide (move.request.method = .get) && move.reply.shown.isOk

/-- The calls that were shown the volumes of the name before the first creation took effect. -/
def earlyCallers (moves : List (Move ι)) : List ι :=
  ((moves.takeWhile Move.isIdle).filter Move.isListing).map Move.caller

/-- Early calls stay early. -/
theorem earlyCallers_subset (moves : List (Move ι)) (move : Move ι) :
    earlyCallers moves ⊆ earlyCallers (moves ++ [move]) := by
  intro i hi
  obtain ⟨earlier, hmember, rfl⟩ := List.mem_map.1 hi
  obtain ⟨hearlier, hlisting⟩ := List.mem_filter.1 hmember
  apply List.mem_map_of_mem
  apply List.mem_filter.2
  apply And.intro _ hlisting
  rw [List.takeWhile_append]
  split
  · exact List.mem_append_left _ ((List.takeWhile_sublist _).subset hearlier)
  · exact hearlier

namespace Race

variable (race : Race ι)

/-- What the provider keeps behind moves. -/
def storeAfter (moves : List (Move ι)) : Store :=
  (moves.getLast?.map Move.after).getD race.store

/-- The volumes of the name behind moves. -/
def kept (moves : List (Move ι)) : List Volume :=
  (race.storeAfter moves).ofName race.region race.name

theorem storeAfter_concat (moves : List (Move ι)) (move : Move ι) :
    race.storeAfter (moves ++ [move]) = move.after := by
  rw [storeAfter, List.getLast?_concat]
  rfl

theorem kept_start : race.kept [] = [] := race.absent

end Race

variable [DecidableEq ι]

/-- The replies that a call has heard. -/
def heardBy (moves : List (Move ι)) (i : ι) : List Reply :=
  moves.filterMap fun move => if move.caller = i then some move.reply else none

/-- The moves of calls that go on in any order. The next move of a call is the request that it sends
behind the replies that it has heard, and the provider serves it, or fails. -/
inductive Race.Interleaved (race : Race ι) : List (Move ι) → Prop
  | start : Interleaved race []
  | move {moves : List (Move ι)} {move : Move ι} (hmoves : Interleaved race moves)
      (hsends : (race.contender move.caller).next? (heardBy moves move.caller) =
        some move.request)
      (hbefore : move.before = race.storeAfter moves)
      (hserves : Serves race.address move.before move.request move.reply move.after) :
      Interleaved race (moves ++ [move])

/-! ## What a call hears -/

theorem heardBy_append (front back : List (Move ι)) (i : ι) :
    heardBy (front ++ back) i = heardBy front i ++ heardBy back i :=
  List.filterMap_append

theorem heardBy_cons_self (move : Move ι) (back : List (Move ι)) :
    heardBy (move :: back) move.caller = move.reply :: heardBy back move.caller := by
  rw [heardBy, List.filterMap_cons, if_pos rfl]
  rfl

/-- Each reply that was heard belongs to a move, and the replies before it to the moves before. -/
theorem exists_move_of_heardBy {moves : List (Move ι)} {i : ι} {reply : Reply}
    {heard rest : List Reply} (hheard : heardBy moves i = heard ++ reply :: rest) :
    ∃ front move back, moves = front ++ move :: back ∧ move.caller = i ∧ move.reply = reply ∧
      heardBy front i = heard := by
  obtain ⟨first, later, rfl, hfirst, hlater⟩ := List.filterMap_eq_append_iff.1 hheard
  obtain ⟨quiet, move, back, rfl, hquiet, hmove, -⟩ := List.filterMap_eq_cons_iff.1 hlater
  have hmine : move.caller = i ∧ move.reply = reply := by
    by_cases hcaller : move.caller = i
    · rw [if_pos hcaller] at hmove
      exact ⟨hcaller, Option.some.inj hmove⟩
    · rw [if_neg hcaller] at hmove
      cases hmove
  refine ⟨first ++ quiet, move, back, (List.append_assoc _ _ _).symm, hmine.1, hmine.2, ?_⟩
  have hnone : heardBy quiet i = [] := List.filterMap_eq_nil_iff.2 hquiet
  rw [heardBy_append, hnone, List.append_nil]
  exact hfirst

/-! ## What a move does -/

namespace Race

variable {race : Race ι} {moves front back : List (Move ι)} {move : Move ι}

/-- What was the case when a move was made behind others. -/
structure Made (race : Race ι) (front : List (Move ι)) (move : Move ι) : Prop where
  earlier : race.Interleaved front
  sends : (race.contender move.caller).next? (heardBy front move.caller) = some move.request
  before : move.before = race.storeAfter front
  serves : Serves race.address move.before move.request move.reply move.after

/-- Every move was made behind those that stand before it. -/
theorem Interleaved.made (hmoves : race.Interleaved moves)
    (hsplit : moves = front ++ move :: back) : race.Made front move := by
  induction hmoves generalizing back with
  | start => simp at hsplit
  | @move earlier last hearlier hsends hbefore hserves ih =>
      rcases List.eq_nil_or_concat back with rfl | ⟨others, final, rfl⟩
      · obtain ⟨rfl, hlast⟩ := List.append_inj' hsplit rfl
        cases hlast
        exact ⟨hearlier, hsends, hbefore, hserves⟩
      · rw [List.concat_eq_append, ← List.cons_append, ← List.append_assoc] at hsplit
        exact ih (List.append_inj' hsplit rfl).1

/-- The requests of a call that were served, with their replies. -/
def turnsBy (moves : List (Move ι)) (i : ι) : List (Request × Reply) :=
  moves.filterMap fun move => if move.caller = i then some (move.request, move.reply) else none

/-- A call goes on as it does alone with the replies that it hears. -/
theorem Interleaved.turnsBy_eq_take (hmoves : race.Interleaved moves) (i : ι) :
    turnsBy moves i =
      ((race.contender i).service.exchanges (race.contender i).call (race.contender i).context
        (heardBy moves i)).take (heardBy moves i).length := by
  induction hmoves with
  | start => rfl
  | @move moves move hmoves hsends hbefore hserves ih =>
      rw [turnsBy, List.filterMap_append, ← turnsBy, heardBy_append]
      by_cases hcaller : move.caller = i
      · subst hcaller
        have hheard : heardBy [move] move.caller = [move.reply] := heardBy_cons_self move []
        have hturn : ([move].filterMap fun other =>
            if other.caller = move.caller then some (other.request, other.reply) else none) =
              [(move.request, move.reply)] := by
          rw [List.filterMap_cons, if_pos rfl]
          rfl
        rw [hheard, hturn, List.length_append, List.length_singleton,
          Contender.take_turns_concat hsends, ih]
      · have hheard : heardBy [move] i = [] := by
          rw [heardBy, List.filterMap_cons, if_neg hcaller]
          rfl
        rw [hheard, List.append_nil, List.filterMap_cons, if_neg hcaller, List.filterMap_nil,
          List.append_nil, ih]

/-- A call that has come to its end among others has run as it does alone: it answers what its
service answers to it, behind the same requests. -/
theorem Interleaved.outcome_of_result? (hmoves : race.Interleaved moves) {i : ι}
    {result : Except Failure Answer}
    (hresult : (race.contender i).result? (heardBy moves i) = some result) :
    ((race.contender i).service.step
      (.call (race.contender i).call (race.contender i).context (heardBy moves i))).1.outcome =
      .answered result ((turnsBy moves i).map Prod.fst) := by
  rw [Service.outcome_call]
  have hturns := hmoves.turnsBy_eq_take i
  rw [Contender.result?] at hresult
  split at hresult
  · cases hresult
  · rename_i hended
    cases hresult
    have hlength := List.getElem?_eq_none_iff.1 hended
    rw [← Service.map_fst_exchanges, List.length_map] at hlength
    rw [hturns, List.take_of_length_le hlength, Service.map_fst_exchanges]

/-- A first move of a call, which asks for the volumes of the name. It has no effect, and where it
does not fail it shows a page with the volumes that are kept. -/
structure Lists (race : Race ι) (front : List (Move ι)) (move : Move ι) : Prop where
  method : move.request.method = .get
  first : heardBy front move.caller = []
  idle : move.after = move.before
  answered : ¬ move.reply.Fails → ∃ page, move.reply.shown = .ok page
  shows : ∀ page, move.reply.shown = .ok page →
    page.ShowsName (race.storeAfter front) race.region race.name

/-- A volume of the name that is taken up by a move. -/
structure Adds (race : Race ι) (move : Move ι) (volume : Volume) : Prop where
  region : volume.region = race.region
  name : volume.name = race.name
  after : move.after = move.before ++ [volume]

/-- A second move of a call, which posts a volume of the name and was shown none. The volume is
taken up or not, and one that is shown was taken up. -/
structure Posts (race : Race ι) (front : List (Move ι)) (move : Move ι) : Prop where
  method : move.request.method = .post
  invited : ∃ listed page, heardBy front move.caller = [listed] ∧ listed.shown = .ok page ∧
    page.volumes = []
  effect : move.after = move.before ∨ ∃ volume, race.Adds move volume
  created : ∀ shown, move.reply.created = .ok shown →
    ∃ volume, race.Adds move volume ∧ shown.id = volume.id

/-- A call lists the volumes of the name, and then it posts one. -/
theorem Made.lists_or_posts (hmade : race.Made front move) :
    race.Lists front move ∨ race.Posts front move := by
  obtain ⟨-, hsends, hbefore, hserves⟩ := hmade
  have hregion : (race.contender move.caller).service.setting.region = race.region :=
    race.located move.caller
  rcases Contender.request_of_next? hsends with ⟨hfirst, htruthy, client, timeout, hrequest⟩ |
    ⟨listed, page, client, gigabytes, timeout, hheard, hshown, hnone, hrequest⟩
  · left
    rw [hrequest] at hserves
    obtain ⟨hidle, hanswered, hshows⟩ := shows_of_nameRequest htruthy hserves
    rw [hregion, race.named] at hshows
    constructor
    · rw [hrequest]
      rfl
    · exact hfirst
    · exact hidle
    · intro hheard
      obtain ⟨page, hpage⟩ := hanswered hheard
      exact ⟨page, (client.pageOf_eq_ok_iff _ _).1 hpage⟩
    · intro page hpage
      rw [← hbefore]
      exact hshows page ((client.pageOf_eq_ok_iff _ _).2 hpage)
  · right
    have hpost : move.request.method = .post := by
      rw [hrequest]
      rfl
    have hadds {volume : Volume} (hvolume : volume.IsPosted move.request.content)
        (hafter : move.after = move.before ++ [volume]) : race.Adds move volume := by
      rw [hrequest] at hvolume
      exact ⟨hvolume.region.trans hregion, hvolume.name.trans (race.named move.caller), hafter⟩
    obtain ⟨heffect, hcreated⟩ := hserves.of_post hpost
    refine ⟨hpost, ⟨listed, page, hheard, hshown, hnone⟩, ?_, ?_⟩
    · rcases heffect with hidle | ⟨volume, hvolume, hafter⟩
      · exact .inl hidle
      · exact .inr ⟨volume, hadds hvolume hafter⟩
    · intro shown hshown
      obtain ⟨volume, other, hother, hdescribes, hvolume, hafter⟩ :=
        hcreated (Reply.not_fails_of_created hshown)
      rw [hshown] at hother
      cases hother
      exact ⟨volume, hadds hvolume hafter, hdescribes.id⟩

/-- A call that has heard nothing yet lists. -/
theorem Made.lists (hmade : race.Made front move) (hfirst : heardBy front move.caller = []) :
    race.Lists front move := by
  rcases hmade.lists_or_posts with hlists | hposts
  · exact hlists
  · obtain ⟨_, _, hheard, -⟩ := hposts.invited
    rw [hfirst] at hheard
    cases hheard

/-- A call that has heard something posts. -/
theorem Made.posts (hmade : race.Made front move) (hheard : heardBy front move.caller ≠ []) :
    race.Posts front move := by
  rcases hmade.lists_or_posts with hlists | hposts
  · exact (hheard hlists.first).elim
  · exact hposts

/-- A call that sends a request for volumes lists. -/
theorem Made.lists_of_get (hmade : race.Made front move) (hget : move.request.method = .get) :
    race.Lists front move := by
  rcases hmade.lists_or_posts with hlists | hposts
  · exact hlists
  · rw [hposts.method] at hget
    cases hget

/-! ## What is kept of the name -/

/-- A move without effect leaves the volumes of the name as they are. -/
theorem Made.kept_of_idle (hmade : race.Made front move) (hidle : move.after = move.before) :
    race.kept (front ++ [move]) = race.kept front := by
  rw [kept, storeAfter_concat, hidle, hmade.before, kept]

/-- A volume of the name that is taken up is one more. -/
theorem Made.kept_of_adds (hmade : race.Made front move) {volume : Volume}
    (hadds : race.Adds move volume) :
    race.kept (front ++ [move]) = race.kept front ++ [volume] := by
  have hone : Store.ofName [volume] race.region race.name = [volume] := by
    rw [Store.ofName, List.filter_singleton, decide_eq_true ⟨hadds.region, hadds.name⟩]
    rfl
  rw [kept, storeAfter_concat, hadds.after, hmade.before, Store.ofName, List.filter_append]
  exact congrArg _ hone

/-- The volumes of the name stay. -/
theorem Made.kept_grows (hmade : race.Made front move) :
    race.kept front <+: race.kept (front ++ [move]) := by
  have hidle (hidle : move.after = move.before) :
      race.kept front <+: race.kept (front ++ [move]) := by
    rw [hmade.kept_of_idle hidle]
  rcases hmade.lists_or_posts with hlists | hposts
  · exact hidle hlists.idle
  · rcases hposts.effect with hsame | ⟨volume, hadds⟩
    · exact hidle hsame
    · rw [hmade.kept_of_adds hadds]
      exact List.prefix_append _ _

/-- The volumes of the name stay, whatever moves follow. -/
theorem Interleaved.kept_grows (hmoves : race.Interleaved (front ++ back)) :
    race.kept front <+: race.kept (front ++ back) := by
  induction back using List.reverseRecOn with
  | nil => rw [List.append_nil]
  | append_singleton back move ih =>
      rw [← List.append_assoc] at hmoves ⊢
      have hmade : race.Made (front ++ back) move := hmoves.made rfl
      exact (ih hmade.earlier).trans hmade.kept_grows

/-- The volumes of the name behind a move stay, whatever moves follow. -/
theorem Interleaved.kept_concat_grows (hmoves : race.Interleaved moves)
    (hsplit : moves = front ++ move :: back) :
    race.kept (front ++ [move]) <+: race.kept moves := by
  rw [← List.singleton_append, ← List.append_assoc] at hsplit
  rw [hsplit] at hmoves ⊢
  exact hmoves.kept_grows

/-- Behind a move with an effect there is a volume of the name. -/
theorem Interleaved.kept_ne_nil (hmoves : race.Interleaved moves) (hmove : move ∈ moves)
    (heffect : move.after ≠ move.before) : race.kept moves ≠ [] := by
  obtain ⟨front, back, rfl⟩ := List.append_of_mem hmove
  have hmade : race.Made front move := hmoves.made rfl
  rcases hmade.lists_or_posts with hlists | hposts
  · exact (heffect hlists.idle).elim
  · rcases hposts.effect with hsame | ⟨volume, hadds⟩
    · exact (heffect hsame).elim
    · have hgrown := hmoves.kept_concat_grows rfl
      rw [hmade.kept_of_adds hadds] at hgrown
      exact List.ne_nil_of_mem (hgrown.subset (List.mem_append_right _ List.mem_cons_self))

/-! ## What a call does behind its listing -/

/-- What the caller of a move has heard in all. -/
theorem heardBy_split (front : List (Move ι)) (move : Move ι) (back : List (Move ι)) :
    heardBy (front ++ move :: back) move.caller =
      heardBy front move.caller ++ move.reply :: heardBy back move.caller := by
  rw [heardBy_append, heardBy_cons_self]

/-- A call that was shown a volume of the name does nothing but list. -/
theorem Interleaved.lists_of_shown (hmoves : race.Interleaved moves)
    (hsplit : moves = front ++ move :: back) (hlists : race.Lists front move)
    (hshown : ∀ page, move.reply.shown = .ok page → page.volumes ≠ [])
    {front' back' : List (Move ι)} {other : Move ι} (hother : moves = front' ++ other :: back')
    (hcaller : other.caller = move.caller) : race.Lists front' other := by
  have hmade : race.Made front' other := hmoves.made hother
  rcases hmade.lists_or_posts with hlists' | hposts
  · exact hlists'
  · obtain ⟨listed, page, hheard, hpage, hnone⟩ := hposts.invited
    have hfirst : heardBy moves move.caller = move.reply :: heardBy back move.caller := by
      rw [hsplit, heardBy_split, hlists.first, List.nil_append]
    have hagain := heardBy_split front' other back'
    rw [← hother, hheard, hcaller, hfirst] at hagain
    rw [← (List.cons.inj hagain).1] at hpage
    exact (hshown page hpage hnone).elim

/-- A call that was shown a volume of the name hears nothing else. -/
theorem Interleaved.heardBy_of_shown (hmoves : race.Interleaved moves)
    (hsplit : moves = front ++ move :: back) (hlists : race.Lists front move)
    (hshown : ∀ page, move.reply.shown = .ok page → page.volumes ≠ []) :
    heardBy moves move.caller = [move.reply] := by
  have hheard : heardBy moves move.caller = move.reply :: heardBy back move.caller := by
    rw [hsplit, heardBy_split, hlists.first, List.nil_append]
  cases hmore : heardBy back move.caller with
  | nil => rw [hheard, hmore]
  | cons next rest =>
      rw [hmore] at hheard
      obtain ⟨front', other, back', hother, hcaller, -, hfirst⟩ :=
        exists_move_of_heardBy (hheard.trans List.singleton_append.symm)
      have hlists' := hmoves.lists_of_shown hsplit hlists hshown hother hcaller
      rw [← hcaller, hlists'.first] at hfirst
      cases hfirst

/-- A call that is shown the volumes of the name before there are any is an early one. -/
theorem Interleaved.mem_earlyCallers (hmoves : race.Interleaved moves)
    (hsplit : moves = front ++ move :: back) (hlists : race.Lists front move) {page : Page}
    (hpage : move.reply.shown = .ok page) (hnone : race.kept front = []) :
    move.caller ∈ earlyCallers moves := by
  have hidle : ∀ earlier ∈ front, earlier.isIdle = true := by
    intro earlier hearlier
    rw [Move.isIdle, decide_eq_true_eq]
    by_contra heffect
    exact (hmoves.made hsplit).earlier.kept_ne_nil hearlier heffect hnone
  apply List.mem_map_of_mem
  apply List.mem_filter.2
  have hlisting : move.isListing = true := by
    rw [Move.isListing, decide_eq_true hlists.method, hpage]
    rfl
  apply And.intro _ hlisting
  have hmine : move.isIdle = true := decide_eq_true hlists.idle
  rw [hsplit, List.takeWhile_append_of_pos hidle, List.takeWhile_cons_of_pos hmine]
  exact List.mem_append_right _ List.mem_cons_self

/-- A call that posts a volume is an early one, since it was shown no volume of the name. -/
theorem Posts.mem_earlyCallers (hposts : race.Posts moves move) (hmoves : race.Interleaved moves) :
    move.caller ∈ earlyCallers moves := by
  obtain ⟨listed, page, hheard, hpage, hnone⟩ := hposts.invited
  obtain ⟨front, listing, back, hsplit, hcaller, rfl, hfirst⟩ :=
    exists_move_of_heardBy (hheard.trans (List.nil_append _).symm)
  rw [← hcaller] at hfirst ⊢
  have hlists : race.Lists front listing := (hmoves.made hsplit).lists hfirst
  obtain ⟨volumes, hkept, hshown⟩ := hlists.shows page hpage
  rw [hnone] at hshown
  cases hshown
  exact hmoves.mem_earlyCallers hsplit hlists hpage hkept.nil_eq.symm

/-! ## To whom the volumes are due -/

/-- The calls to which the volumes of the name are due, each for one: they have heard of what they
posted, and were early ones. -/
structure Makers (race : Race ι) (moves : List (Move ι)) (makers : List ι) : Prop where
  nodup : makers.Nodup
  count : makers.length = (race.kept moves).length
  posted : ∀ i ∈ makers, 2 ≤ (heardBy moves i).length
  early : ∀ i ∈ makers, i ∈ earlyCallers moves

theorem makers_start : race.Makers [] [] where
  nodup := List.nodup_nil
  count := by
    rw [race.kept_start]
    rfl
  posted := fun i himpossible => by cases himpossible
  early := fun i himpossible => by cases himpossible

variable {makers : List ι}

/-- What a call has heard grows. -/
theorem Makers.posted_later (hmakers : race.Makers moves makers) (move : Move ι) :
    ∀ i ∈ makers, 2 ≤ (heardBy (moves ++ [move]) i).length := by
  intro i hi
  rw [heardBy_append, List.length_append]
  exact Nat.le_add_right_of_le (hmakers.posted i hi)

/-- A move without effect has no volume to account for. -/
theorem Makers.of_idle (hmakers : race.Makers moves makers) (hmade : race.Made moves move)
    (hidle : move.after = move.before) : race.Makers (moves ++ [move]) makers where
  nodup := hmakers.nodup
  count := by rw [hmade.kept_of_idle hidle, hmakers.count]
  posted := hmakers.posted_later move
  early := fun i hi => earlyCallers_subset moves move (hmakers.early i hi)

/-- A volume that is taken up is due to a call that has not posted one before: it had heard one
reply only. -/
theorem Makers.of_adds (hmakers : race.Makers moves makers) (hmade : race.Made moves move)
    (hposts : race.Posts moves move) {volume : Volume} (hadds : race.Adds move volume) :
    race.Makers (moves ++ [move]) (move.caller :: makers) := by
  obtain ⟨listed, _, hheard, -⟩ := hposts.invited
  constructor
  · apply List.nodup_cons.2 ⟨_, hmakers.nodup⟩
    intro hmember
    have hlength := hmakers.posted move.caller hmember
    rw [hheard] at hlength
    exact Nat.not_succ_le_self 1 hlength
  · rw [hmade.kept_of_adds hadds, List.length_cons, List.length_append, hmakers.count]
    rfl
  · intro i hi
    rcases List.mem_cons.1 hi with rfl | hi
    · rw [heardBy_split, hheard]
      exact Nat.le_refl 2
    · exact hmakers.posted_later move i hi
  · intro i hi
    rcases List.mem_cons.1 hi with rfl | hi
    · exact earlyCallers_subset moves move (hposts.mem_earlyCallers hmade.earlier)
    · exact earlyCallers_subset moves move (hmakers.early i hi)

/-- Each volume of the name is due to a call of its own. -/
theorem Interleaved.exists_makers (hmoves : race.Interleaved moves) :
    ∃ makers, race.Makers moves makers := by
  induction hmoves with
  | start => exact ⟨[], makers_start⟩
  | @move moves move hmoves hsends hbefore hserves ih =>
      have hmade : race.Made moves move := ⟨hmoves, hsends, hbefore, hserves⟩
      obtain ⟨makers, hmakers⟩ := ih
      rcases hmade.lists_or_posts with hlists | hposts
      · exact ⟨makers, hmakers.of_idle hmade hlists.idle⟩
      · rcases hposts.effect with hidle | ⟨volume, hadds⟩
        · exact ⟨makers, hmakers.of_idle hmade hidle⟩
        · exact ⟨move.caller :: makers, hmakers.of_adds hmade hposts hadds⟩

/-- There are no more volumes of the name than calls that listed before the first was created. -/
theorem Interleaved.length_kept_le (hmoves : race.Interleaved moves) :
    (race.kept moves).length ≤ (earlyCallers moves).toFinset.card := by
  obtain ⟨makers, hmakers⟩ := hmoves.exists_makers
  rw [← hmakers.count, ← List.toFinset_card_of_nodup hmakers.nodup]
  apply Finset.card_le_card
  intro i hi
  rw [List.mem_toFinset] at hi ⊢
  exact hmakers.early i hi

/-! ## What a call answers -/

/-- A call that answers with success answers with a volume of the name that is kept. -/
theorem Interleaved.stored_of_result? (hmoves : race.Interleaved moves) {i : ι} {answer : Answer}
    (hresult : (race.contender i).result? (heardBy moves i) = some (.ok answer))
    (hplain : answer.status = none) :
    ∃ stored ∈ race.kept moves, ∃ capacity,
      answer.response = .creation (some ⟨stored.id, capacity⟩) := by
  obtain ⟨volume, capacity, hresponse, hheard⟩ := Contender.volume_of_result? hresult hplain
  rw [hresponse]
  rcases hheard with ⟨reply, rest, page, hheard, hshown, hvolumes⟩ |
    ⟨listed, reply, rest, hheard, hcreated⟩
  · obtain ⟨front, move, back, hsplit, rfl, rfl, hfirst⟩ :=
      exists_move_of_heardBy (hheard.trans (List.nil_append _).symm)
    obtain ⟨volumes, hkept, hdescribes⟩ :=
      ((hmoves.made hsplit).lists hfirst).shows page hshown
    obtain ⟨stored, hstored, hdescribes⟩ := exists_of_shown hkept hdescribes volume
      (by rw [hvolumes]; exact List.mem_cons_self)
    rw [hsplit] at hmoves ⊢
    exact ⟨stored, hmoves.kept_grows.subset hstored, capacity, by rw [hdescribes.id]⟩
  · obtain ⟨front, move, back, hsplit, rfl, rfl, hlisted⟩ :=
      exists_move_of_heardBy (hheard.trans (List.singleton_append).symm)
    have hmade : race.Made front move := hmoves.made hsplit
    have hposts : race.Posts front move := hmade.posts (by rw [hlisted]; exact List.cons_ne_nil _ _)
    obtain ⟨stored, hadds, hid⟩ := hposts.created volume hcreated
    have hgrown := hmoves.kept_concat_grows hsplit
    rw [hmade.kept_of_adds hadds] at hgrown
    exact ⟨stored, hgrown.subset (List.mem_append_right _ List.mem_cons_self), capacity,
      by rw [hid]⟩

/-- A page shows as many volumes as are kept. -/
theorem Lists.length_shown (hlists : race.Lists front move) {page : Page}
    (hpage : move.reply.shown = .ok page) :
    page.volumes.length = (race.kept front).length := by
  obtain ⟨volumes, hkept, hshown⟩ := hlists.shows page hpage
  rw [hshown.length_eq]
  exact hkept.length_eq

/-- Where volumes are kept, a page shows some. -/
theorem Lists.shown_ne_nil (hlists : race.Lists front move) (hsome : race.kept front ≠ []) :
    ∀ page, move.reply.shown = .ok page → page.volumes ≠ [] := by
  intro page hpage hnone
  apply hsome
  apply List.eq_nil_of_length_eq_zero
  rw [← hlists.length_shown hpage, hnone]
  rfl

/-- A call that lists where volumes are kept does nothing else. -/
theorem Interleaved.lists_of_kept (hmoves : race.Interleaved moves)
    (hsplit : moves = front ++ move :: back) (hget : move.request.method = .get)
    (hsome : race.kept front ≠ []) {other : Move ι} (hother : other ∈ moves)
    (hcaller : other.caller = move.caller) : ∃ front, race.Lists front other := by
  have hlists := (hmoves.made hsplit).lists_of_get hget
  obtain ⟨front', back', hsplit'⟩ := List.append_of_mem hother
  exact ⟨front', hmoves.lists_of_shown hsplit hlists (hlists.shown_ne_nil hsome) hsplit' hcaller⟩

/-- A call that lists several volumes of the name fails for them. -/
theorem Interleaved.result?_of_several (hmoves : race.Interleaved moves)
    (hsplit : moves = front ++ move :: back) (hlists : race.Lists front move)
    (hanswered : ¬ move.reply.Fails) (hseveral : 2 ≤ (race.kept front).length) :
    (race.contender move.caller).result? (heardBy moves move.caller) = some (.ok {
      response := .creation none
      status := some .internal
      details := some
        (Failure.duplicateName race.name (.int (race.kept front).length)).message }) := by
  obtain ⟨page, hpage⟩ := hlists.answered hanswered
  have hlength := hlists.length_shown hpage
  have hshown : ∀ page, move.reply.shown = .ok page → page.volumes ≠ [] :=
    hlists.shown_ne_nil (List.ne_nil_of_length_pos (Nat.lt_of_lt_of_le Nat.zero_lt_two hseveral))
  have hsends := (hmoves.made hsplit).sends
  rw [hlists.first] at hsends
  rw [hmoves.heardBy_of_shown hsplit hlists hshown, ← race.named move.caller, ← hlength]
  exact Contender.result?_of_several hsends hpage (by rw [hlength]; exact hseveral)

/-- What a race does to the volumes of its name, whatever the order of the moves. There are no more
volumes than calls that listed before the first creation took effect, and a call that lists behind
it posts none. Where there is one volume, every success answers with its id. Where there are
several, a call that lists them fails for them and changes nothing. -/
theorem race_bounded (hmoves : race.Interleaved moves) :
    (race.kept moves).length ≤ (earlyCallers moves).toFinset.card ∧
    (∀ front listing back, moves = front ++ listing :: back → listing.request.method = .get →
      (∃ move ∈ front, move.after ≠ move.before) →
      ∀ move ∈ moves, move.caller = listing.caller → move.request.method = .get) ∧
    (∀ volume, race.kept moves = [volume] → ∀ i answer,
      (race.contender i).result? (heardBy moves i) = some (.ok answer) → answer.status = none →
      ∃ capacity, answer.response = .creation (some ⟨volume.id, capacity⟩)) ∧
    ∀ front listing back, moves = front ++ listing :: back → listing.request.method = .get →
      ¬ listing.reply.Fails → 2 ≤ (race.kept front).length →
      (race.contender listing.caller).result? (heardBy moves listing.caller) = some (.ok {
        response := .creation none
        status := some .internal
        details := some
          (Failure.duplicateName race.name (.int (race.kept front).length)).message }) ∧
      ∀ move ∈ moves, move.caller = listing.caller → move.after = move.before := by
  refine ⟨hmoves.length_kept_le, ?_, ?_, ?_⟩
  · rintro front listing back hsplit hget ⟨move, hmove, heffect⟩ other hother hcaller
    have hmade : race.Made front listing := hmoves.made hsplit
    exact (hmoves.lists_of_kept hsplit hget (hmade.earlier.kept_ne_nil hmove heffect) hother
      hcaller).elim fun front hlists => hlists.method
  · intro volume hone i answer hresult hplain
    obtain ⟨stored, hstored, hresponse⟩ := hmoves.stored_of_result? hresult hplain
    rw [hone, List.mem_singleton] at hstored
    rwa [hstored] at hresponse
  · intro front listing back hsplit hget hanswered hseveral
    have hlists := (hmoves.made hsplit).lists_of_get hget
    apply And.intro (hmoves.result?_of_several hsplit hlists hanswered hseveral)
    intro other hother hcaller
    have hsome : race.kept front ≠ [] :=
      List.ne_nil_of_length_pos (Nat.lt_of_lt_of_le Nat.zero_lt_two hseveral)
    exact (hmoves.lists_of_kept hsplit hget hsome hother hcaller).elim fun front hlists =>
      hlists.idle

end Race

/-! ## A race of three calls -/

namespace Rush

/-- A call for a volume. -/
def contender : Contender where
  service := Retry.service
  request := { name := .text "data", capabilities := some [some ⟨.number 1⟩] }

/-- Three such calls. -/
def race : Race (Fin 3) where
  address := Retry.service.setting.address
  region := Retry.service.region
  name := .text "data"
  store := []
  contender _ := contender
  named _ := rfl
  located _ := rfl
  absent := rfl

/-- A call that is shown the volumes of the name. -/
def listing (i : Fin 3) (reply : Reply) (store : Store) : Move (Fin 3) where
  caller := i
  request := nameRequest Retry.service.setting Retry.client (.text "data") (.int 30)
  reply := reply
  before := store
  after := store

/-- A call that creates a volume. -/
def posting (i : Fin 3) (reply : Reply) (store : Store) (volume : Volume) : Move (Fin 3) where
  caller := i
  request := creationRequest Retry.service.setting Retry.client (.text "data") (.int 16) (.int 30)
  reply := reply
  before := store
  after := store ++ [volume]

/-- A second volume of the name. -/
def other : Volume := { Retry.volume with id := .text "w" }

/-- The answer to its creation, and the page with both volumes. -/
def otherAnswer : Reply :=
  .answer 201 (String.join [
    "\x7b\"volume\":\x7b\"id\":\"w\",\"name\":\"data\",\"size_gigabytes\":16,",
    "\"description\":\"Created by DigitalOcean CSI driver\"\x7d\x7d"])

def bothPage : Reply :=
  .answer 200 (String.join [
    "\x7b\"volumes\":[\x7b\"id\":\"v\",\"name\":\"data\",\"size_gigabytes\":16,",
    "\"description\":\"Created by DigitalOcean CSI driver\"\x7d,",
    "\x7b\"id\":\"w\",\"name\":\"data\",\"size_gigabytes\":16,",
    "\"description\":\"Created by DigitalOcean CSI driver\"\x7d]\x7d"])

/-- Two calls list, and both create a volume. -/
def front : List (Move (Fin 3)) :=
  [listing 0 Retry.emptyPage [], listing 1 Retry.emptyPage [],
    posting 0 Retry.createdAnswer [] Retry.volume, posting 1 otherAnswer [Retry.volume] other]

theorem next?_first :
    contender.next? [] =
      some (nameRequest Retry.service.setting Retry.client (.text "data") (.int 30)) := by
  decide +kernel

theorem next?_second :
    contender.next? [Retry.emptyPage] =
      some (creationRequest Retry.service.setting Retry.client (.text "data") (.int 16)
        (.int 30)) := by
  decide +kernel

theorem created_otherAnswer : otherAnswer.created = .ok { other with region := .text "" } := by
  decide +kernel

theorem shown_bothPage :
    bothPage.shown =
      .ok ⟨[{ Retry.volume with region := .text "" }, { other with region := .text "" }],
        none⟩ := by
  decide +kernel

theorem describes_other : Volume.Describes { other with region := .text "" } other :=
  ⟨rfl, rfl, rfl, rfl⟩

/-- The provider takes up a volume that the request describes. -/
theorem serves_creation {store : Store} {reply : Reply} {volume shown : Volume}
    (hposted : volume.IsPosted (creationRequest Retry.service.setting Retry.client (.text "data")
      (.int 16) (.int 30)).content)
    (hcreated : reply.created = .ok shown) (hshown : shown.Describes volume) :
    Serves Retry.service.setting.address store
      (creationRequest Retry.service.setting Retry.client (.text "data") (.int 16) (.int 30))
      reply (store ++ [volume]) := by
  apply Serves.answered
  apply Answers.created rfl _ hposted hcreated hshown
  rw [Retry.address_service]
  rfl

theorem serves_first :
    Serves Retry.service.setting.address []
      (creationRequest Retry.service.setting Retry.client (.text "data") (.int 16) (.int 30))
      Retry.createdAnswer [Retry.volume] :=
  serves_creation ⟨rfl, rfl, rfl, rfl⟩ Retry.created_createdAnswer Retry.describes_volume

theorem serves_second :
    Serves Retry.service.setting.address [Retry.volume]
      (creationRequest Retry.service.setting Retry.client (.text "data") (.int 16) (.int 30))
      otherAnswer [Retry.volume, other] :=
  serves_creation ⟨rfl, rfl, rfl, rfl⟩ created_otherAnswer describes_other

theorem serves_emptyPage :
    Serves Retry.service.setting.address []
      (nameRequest Retry.service.setting Retry.client (.text "data") (.int 30)) Retry.emptyPage
      [] :=
  .answered (Retry.answers_page .nil Retry.shown_emptyPage .nil)

theorem serves_bothPage :
    Serves Retry.service.setting.address [Retry.volume, other]
      (nameRequest Retry.service.setting Retry.client (.text "data") (.int 30)) bothPage
      [Retry.volume, other] := by
  have hkept : [Retry.volume, other].Perm
      (Store.ofName [Retry.volume, other] Retry.service.region (.text "data")) :=
    .of_eq (by decide +kernel)
  exact .answered (Retry.answers_page hkept shown_bothPage
    (.cons Retry.describes_volume (.cons describes_other .nil)))

theorem interleaved_front : race.Interleaved front := by
  have hfirst : race.Interleaved [listing 0 Retry.emptyPage []] :=
    .move .start next?_first rfl serves_emptyPage
  have hsecond : race.Interleaved [listing 0 Retry.emptyPage [], listing 1 Retry.emptyPage []] :=
    .move hfirst next?_first rfl serves_emptyPage
  have hthird : race.Interleaved [listing 0 Retry.emptyPage [], listing 1 Retry.emptyPage [],
      posting 0 Retry.createdAnswer [] Retry.volume] :=
    .move hsecond next?_second rfl serves_first
  exact .move hthird next?_second rfl serves_second

theorem interleaved :
    race.Interleaved (front ++ [listing 2 bothPage [Retry.volume, other]]) :=
  .move interleaved_front next?_first rfl serves_bothPage

end Rush

/-- Where two calls list before either creates, both create a volume; the third fails for them. -/
theorem Race.rush_bounded :
    2 ≤ (earlyCallers (Rush.front ++
      [Rush.listing 2 Rush.bothPage [Retry.volume, Rush.other]])).toFinset.card ∧
    Rush.contender.result? [Rush.bothPage] = some (.ok {
      response := .creation none
      status := some .internal
      details := some (Failure.duplicateName (.text "data") (.int 2)).message }) := by
  obtain ⟨hbound, -, -, hseveral⟩ := Race.race_bounded Rush.interleaved
  have hkept : (Rush.race.kept Rush.front).length = 2 := by decide +kernel
  have hkept' : (Rush.race.kept (Rush.front ++
      [Rush.listing 2 Rush.bothPage [Retry.volume, Rush.other]])).length = 2 := by
    decide +kernel
  rw [hkept'] at hbound
  have hfails := (hseveral Rush.front _ [] rfl rfl
    (Reply.not_fails_of_shown Rush.shown_bothPage) (by rw [hkept])).1
  rw [hkept] at hfails
  exact ⟨hbound, hfails⟩

end VolumePlugin
