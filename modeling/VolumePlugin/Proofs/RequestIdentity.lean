/-
# What a request tells of its operation

A client makes one request for an operation, and nothing comes back that changes which. The request
is put together by plain joining: ids go into the path unescaped, and options that are empty are
left out. So two operations might be asked for by one request, had the paths and the members not
been chosen as they are.

They are not: the operation can be read back from its request. The method and the member `type`
tell its sort, what is joined to an id in the path is of a known length on either side, and each
member has a name of its own. Two things alone are lost: whether an id was a text or was printed as
one, and which of the empty values an option had.
-/
import VolumePlugin.Proofs.AnswerStatus
import VolumePlugin.Proofs.Region

namespace VolumePlugin

namespace Content

/-- Two contents say the same: they are of one kind and have the same members, in any order. -/
def SameAs : Content → Content → Prop
  | .none, .none => True
  | .query parameters, .query others => ∀ name, parameters.lookup name = others.lookup name
  | .json members, .json others => ∀ name, members.lookup name = others.lookup name
  | _, _ => False

@[refl]
theorem SameAs.refl (content : Content) : content.SameAs content := by
  cases content with
  | none => exact trivial
  | query | json => exact fun _ => rfl

/-- The member of a name, null where there is none. -/
def member (content : Content) (name : String) : Value :=
  Value.memberOr content.members name .null

theorem member_eq (content : Content) (name : String) :
    content.member name = (content.members.lookup name).getD .null := rfl

/-- The members of contents that say the same are the same. -/
theorem SameAs.member_eq {content other : Content} (hsame : content.SameAs other) :
    content.member = other.member := by
  funext name
  rw [Content.member_eq, Content.member_eq]
  -- Contents of two kinds never say the same, which leaves the three pairs of one kind.
  cases content <;> cases other <;> try exact hsame.elim
  case none.none => rfl
  case query.query | json.json => exact congrArg (·.getD .null) (hsame name)

end Content

/-- Two requests ask for the same: they have one method, one address and the same content. -/
structure Request.SameAs (request other : Request) : Prop where
  method : request.method = other.method
  url : request.url = other.url
  content : request.content.SameAs other.content

/-- An empty value in place of which null is taken is as empty as before. -/
theorem Value.truthy_orElse_null (value : Value) :
    (value.orElse .null).truthy = value.truthy := by
  unfold orElse
  split
  · rfl
  · exact (Bool.eq_false_iff.2 ‹_›).symm

namespace Operation

/-- What a request tells of an operation: its ids as they are printed, and null for each option that
is empty. -/
def told : Operation → Operation
  | .list region name page perPage =>
    .list region (name.orElse .null) (page.orElse .null) (perPage.orElse .null)
  | .create region name description gigabytes => .create region name description gigabytes
  | .delete volumeId => .delete (.text volumeId.display)
  | .attach volumeId dropletId region =>
    .attach (.text volumeId.display) dropletId (region.orElse .null)
  | .detach volumeId dropletId region =>
    .detach (.text volumeId.display) dropletId (region.orElse .null)

/-- The id of the volume that an operation is about. -/
def volumeId? : Operation → Option Value
  | .list .. | .create .. => none
  | .delete volumeId | .attach volumeId _ _ | .detach volumeId _ _ => some volumeId

/-- The id is told as it is printed. -/
theorem volumeId?_told (operation : Operation) :
    operation.told.volumeId? = operation.volumeId?.map fun volumeId => .text volumeId.display := by
  cases operation <;> rfl

/-! ## Requests depend on what they tell -/

/-- An option that is empty is left out like null. -/
theorem optional_orElse_null (name : String) (value : Value) :
    optional name (value.orElse .null) = optional name value := by
  unfold optional
  rw [Value.truthy_orElse_null]
  split
  · rw [Value.orElse, if_pos ‹_›]
  · rfl

theorem method_told (operation : Operation) : operation.told.method = operation.method := by
  cases operation <;> rfl

theorem path_told (operation : Operation) : operation.told.path = operation.path := by
  cases operation <;> rfl

theorem content_told (operation : Operation) : operation.told.content = operation.content := by
  cases operation with
  | create | delete => rfl
  | list | attach | detach => simp only [told, content, action, optional_orElse_null]

/-! ## Operations read back from requests -/

/-- What stands behind the path of all volumes and a slash. -/
def behindVolumes (path : String) : List Char :=
  path.toList.drop (volumesPath ++ "/").length

/-- What stands there in front of the path of actions. -/
def beforeActions (path : String) : List Char :=
  (behindVolumes path).take ((behindVolumes path).length - "/actions".length)

/-- Read an operation from the method, the path and the members of its request. -/
def read (method : Method) (path : String) (member : String → Value) : Operation :=
  match method with
  | .get => .list (member "region") (member "name") (member "page") (member "per_page")
  | .delete => .delete (.text (String.ofList (behindVolumes path)))
  | .post =>
    let acted : Value := .text (String.ofList (beforeActions path))
    if member "type" = .text "attach" then .attach acted (member "droplet_id") (member "region")
    else if member "type" = .text "detach" then
      .detach acted (member "droplet_id") (member "region")
    else
      .create (member "region") (member "name") (member "description") (member "size_gigabytes")

theorem behindVolumes_volumePath (volumeId : Value) :
    behindVolumes (volumePath volumeId) = volumeId.display.toList := by
  rw [behindVolumes, volumePath, String.toList_append]
  exact List.drop_left

theorem beforeActions_actionsPath (volumeId : Value) :
    beforeActions (actionsPath volumeId) = volumeId.display.toList := by
  have hbehind : behindVolumes (actionsPath volumeId) =
      volumeId.display.toList ++ "/actions".toList := by
    rw [behindVolumes, actionsPath, volumePath, String.toList_append, String.toList_append,
      List.append_assoc]
    exact List.drop_left
  have hlength : (volumeId.display.toList ++ "/actions".toList).length - "/actions".length =
      volumeId.display.toList.length := by
    rw [List.length_append]
    exact Nat.add_sub_cancel ..
  rw [beforeActions, hbehind, hlength, List.take_left]

/-- A member that may be left out is found under its own name alone, unless it was left out. -/
theorem lookup_optional (name other : String) (value : Value) :
    (optional name value).lookup other =
      if other = name ∧ value.truthy = true then some value else none := by
  unfold optional
  by_cases hname : other = name
  · subst hname
    split <;> simp [*]
  · have hother : (other == name) = false := beq_false_of_ne hname
    split <;> simp [List.lookup_cons, *]

/-- One that was left out is read as null. -/
theorem getD_given (value : Value) :
    (if value.truthy = true then some value else none).getD .null = value.orElse .null := by
  rw [Value.orElse]
  split <;> rfl

/-- What is read from a request is what it tells. -/
theorem read_request (operation : Operation) :
    read operation.method operation.path operation.content.member = operation.told := by
  cases operation with
  | delete volumeId =>
      simp only [read, method, told, path, behindVolumes_volumePath, String.ofList_toList]
  | list | create | attach | detach =>
      simp [read, method, told, path, content, action, Content.member_eq, Content.members,
        List.lookup_append, List.lookup_cons, lookup_optional, getD_given,
        beforeActions_actionsPath]

/-- Operations whose requests have one method, one path and the same content are told alike. -/
theorem same_request_iff {operation other : Operation} :
    (operation.method = other.method ∧ operation.path = other.path ∧
      operation.content.SameAs other.content) ↔ operation.told = other.told := by
  constructor
  · rintro ⟨hmethod, hpath, hcontent⟩
    rw [← read_request, ← read_request, hmethod, hpath, hcontent.member_eq]
  · intro htold
    have hcontent : operation.content = other.content := by
      rw [← content_told, htold, content_told]
    refine ⟨?_, ?_, ?_⟩
    · rw [← method_told, htold, method_told]
    · rw [← path_told, htold, path_told]
    · rw [hcontent]

end Operation

/-! ## Requests of a client -/

namespace Client

/-- The address of a client is the one it was given, up to the slashes at its end. -/
theorem exists_slashes (url : String) :
    (∃ slashes, url.toList = (trimSlashes url).toList ++ List.replicate slashes '/') ∧
      (trimSlashes url).toList.getLast? ≠ some '/' := by
  have htrimmed : (trimSlashes url).toList =
      (url.toList.reverse.dropWhile (· = '/')).reverse := String.toList_ofList
  rw [htrimmed]
  constructor
  · -- What is taken away from the end is all slashes, and read backwards it is the same.
    set taken := url.toList.reverse.takeWhile (· = '/') with htaken
    have hall : taken.all (· = '/') = true := List.all_takeWhile
    have hslashes : taken = List.replicate taken.length '/' :=
      List.eq_replicate_of_mem fun c hc => of_decide_eq_true (List.all_eq_true.1 hall c hc)
    refine ⟨taken.length, ?_⟩
    rw [← List.reverse_replicate, ← hslashes, ← List.reverse_append, htaken,
      List.takeWhile_append_dropWhile, List.reverse_reverse]
  · rw [List.getLast?_reverse]
    intro hslash
    have hfirst := List.head?_dropWhile_not (fun c => decide (c = '/')) url.toList.reverse
    rw [hslash] at hfirst
    cases hfirst

/-- Whatever comes back, a client sends one request for an operation. -/
theorem sent_give (client : Client) (operation : Operation) (timeout : Value) (session : Session) :
    ((client.give operation timeout).runIn session).2.sent =
      session.sent ++ [client.request operation timeout] := by
  obtain ⟨transcript, hleads, reply, rfl, -⟩ := client.asks_give operation timeout session
  exact hleads.sent

variable (client : Client) {operation other : Operation} {timeout later : Value}

/-- Two requests of a client ask for the same where they tell the same of their operations. -/
theorem request_sameAs_iff :
    (client.request operation timeout).SameAs (client.request other later) ↔
      operation.told = other.told := by
  rw [← Operation.same_request_iff]
  constructor
  · rintro ⟨hmethod, hurl, hcontent⟩
    exact ⟨hmethod, (String.append_right_inj _).1 hurl, hcontent⟩
  · rintro ⟨hmethod, hpath, hcontent⟩
    exact ⟨hmethod, congrArg (client.apiUrl ++ ·) hpath, hcontent⟩

/-- Operations on volumes with different ids are asked for by different requests. -/
theorem not_sameAs_of_ids {id another : String} (hid : operation.volumeId? = some (.text id))
    (hanother : other.volumeId? = some (.text another)) (hdifferent : id ≠ another) :
    ¬ (client.request operation timeout).SameAs (client.request other later) := by
  intro hsame
  have htold := congrArg Operation.volumeId? (client.request_sameAs_iff.1 hsame)
  rw [Operation.volumeId?_told, Operation.volumeId?_told, hid, hanother] at htold
  cases htold
  exact hdifferent rfl

/-- The requests of a client identify its operations. The address of a client is the one that it
was made for without the slashes at its end. In any session and whatever comes back, an operation
is one request to this address and the path of the operation, and two of them make the same request
just where they are of one sort and have the same parts, options that are empty or null being one
and ids counting as they are printed, which is as they are for a text. So no two texts are taken
for the id of one volume. -/
theorem requests_identify_operations (url token : String) (defaultTimeout : Value) :
    ∃ client, ofUrl (.text url) token defaultTimeout = .ok client ∧
      (∃ slashes, url.toList = client.apiUrl.toList ++ List.replicate slashes '/') ∧
      client.apiUrl.toList.getLast? ≠ some '/' ∧
      (∀ operation timeout session,
        ((client.give operation timeout).runIn session).2.sent =
          session.sent ++ [client.request operation timeout] ∧
        (client.request operation timeout).url = client.apiUrl ++ operation.path) ∧
      (∀ operation other timeout later,
        (client.request operation timeout).SameAs (client.request other later) ↔
          operation.told = other.told) ∧
      (∀ (operation other : Operation) (timeout later : Value) (id another : String),
        operation.volumeId? = some (.text id) → other.volumeId? = some (.text another) →
        id ≠ another →
        ¬ (client.request operation timeout).SameAs (client.request other later)) := by
  obtain ⟨hslashes, hlast⟩ := exists_slashes url
  refine ⟨⟨trimSlashes url, token, defaultTimeout⟩, rfl, hslashes, hlast, ?_, ?_, ?_⟩
  · intro operation timeout session
    exact ⟨sent_give _ operation timeout session, rfl⟩
  · intro operation other timeout later
    exact request_sameAs_iff _
  · intro operation other timeout later id another hid hanother hdifferent
    exact not_sameAs_of_ids _ hid hanother hdifferent

/-- The deletion of a volume whose id ends like the path of actions goes to the address of an
attachment, and is still another request. An attachment in no region is the same request for a
region that is empty. -/
theorem deletion_beside_attachment :
    ∃ client, ofUrl (.text "https://a.example//") "token" (.int 30) = .ok client ∧
      client.apiUrl = "https://a.example" ∧
      (client.request (.delete (.text "data/actions")) .null).url =
        (client.request (.attach (.text "data") (.int 7) .null) .null).url ∧
      ¬ (client.request (.delete (.text "data/actions")) .null).SameAs
        (client.request (.attach (.text "data") (.int 7) .null) .null) ∧
      (client.request (.attach (.text "data") (.int 7) (.text "")) .null).SameAs
        (client.request (.attach (.text "data") (.int 7) .null) (.int 5)) := by
  obtain ⟨client, hclient, -, -, -, htold, hids⟩ :=
    requests_identify_operations "https://a.example//" "token" (.int 30)
  have hurl : client.apiUrl = "https://a.example" := by
    cases hclient
    decide
  refine ⟨client, hclient, hurl, rfl, ?_, ?_⟩
  · exact hids _ _ _ _ "data/actions" "data" rfl rfl (by decide)
  · exact (htold _ _ _ _).2 rfl

end Client

end VolumePlugin
