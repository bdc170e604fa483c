import Passbook.Proofs.Json.Printed
import Passbook.Proofs.Ledger.Json
import Passbook.Remote.Node
/-!
What a node has seen of its ledger. Whatever answers come, and however its calls overlap, the newest
version it remembers is the newest that an answer told of, and an answer is stale if it is older
than that. What an answer tells of stands in its body, under the names of its members.
-/

namespace Passbook.Node

/-- An answer from the network, if there is one, to a call of a node that reads its result. -/
structure Reply where
  {Result : Type}
  read : Json → Option Result
  request : NetRequest
  response : Option NetResponse

namespace Reply

/-- What an answer of success holds, if it can be read. -/
def envelope? (reply : Reply) : Option (Envelope reply.Result) :=
  match reply.request.outcome reply.response with
  | .error _ => none
  | .ok content => decode? reply.read content

/-- The version of an answer that refuses nothing. -/
def version? (reply : Reply) : Option UInt64 :=
  reply.envelope?.bind fun envelope => if envelope.refusal = none then envelope.version else none

end Reply

/-- What a node makes of an answer. -/
def hear (node : Node) (reply : Reply) : Node × Except Fault (Option reply.Result) :=
  node.receive reply.read (reply.request.outcome reply.response)

/-- What happens to a node: a call takes its number, or an answer to some call comes. -/
inductive Happening where
  | numbered
  | answered (reply : Reply)

namespace Happening

def version? : Happening → Option UInt64
  | numbered => none
  | answered reply => reply.version?

/-- The version of an answer that this node does not reject. -/
def accepted? (node : Node) : Happening → Option UInt64
  | numbered => none
  | answered reply => if (node.hear reply).2.toBool then reply.version? else none

end Happening

def step (node : Node) : Happening → Node
  | .numbered => { node with nextCall := node.nextCall + 1 }
  | .answered reply => (node.hear reply).1

def after (node : Node) (happenings : List Happening) : Node := happenings.foldl step node

/-- The newest version of all that answers told of. -/
def newest (happenings : List Happening) : UInt64 :=
  (happenings.filterMap Happening.version?).foldl max 0

/-- The versions that are accepted, one after another. -/
def acceptedVersions (node : Node) : List Happening → List UInt64
  | [] => []
  | happening :: rest =>
      (happening.accepted? node).toList ++ acceptedVersions (node.step happening) rest

theorem max_of_lt {first second : UInt64} (less : second < first) : max first second = first :=
  if_neg (UInt64.not_le.mpr less)

theorem max_of_not_lt {first second : UInt64} (least : ¬ second < first) :
    max first second = second :=
  if_pos (UInt64.not_lt.mp least)

/-! One answer. -/

/-- An envelope has what stands under its three names; where nothing stands, or null, it has
nothing. Other members do not count. -/
theorem ofJson?_eq_some_iff {α : Type} {read : Json → Option α}
    {written : List (Literal × Json)} {members : List (String × Json)}
    (named : Json.named? written = some members) (distinct : (members.map Prod.fst).Nodup)
    (envelope : Envelope α) :
    Envelope.ofJson? read (.object written) = some envelope ↔
      Json.Holds members "result" read envelope.result ∧
      Json.Holds members "error" Refusal.ofJson? envelope.refusal ∧
      Json.Holds members "diem_ledger_version" Json.uint64? envelope.version := by
  obtain ⟨record, known, slots⟩ :=
    Json.exists_record named distinct ["result", "error", "diem_ledger_version"]
  obtain ⟨result, refusal, version⟩ := envelope
  rw [← Json.defaulted_eq_some_iff distinct (slots "result" (by simp)),
    ← Json.defaulted_eq_some_iff distinct (slots "error" (by simp)),
    ← Json.defaulted_eq_some_iff distinct (slots "diem_ledger_version" (by simp))]
  simp only [Envelope.ofJson?, known, Option.bind_eq_bind, Option.bind_some,
    Option.bind_eq_some_iff, Option.pure_def, Option.some.injEq, Envelope.mk.injEq]
  constructor
  · rintro ⟨_, result, _, refusal, _, version, rfl, rfl, rfl⟩
    exact ⟨result, refusal, version⟩
  · rintro ⟨result, refusal, version⟩
    exact ⟨_, result, _, refusal, _, version, rfl, rfl, rfl⟩

section Answer
variable {node : Node} {reply : Reply}

theorem envelope?_of_success {response : NetResponse} (answered : reply.response = some response)
    (success : response.isSuccess = true) :
    reply.envelope? = decode? reply.read response.content := by
  have outcome : reply.request.outcome (some response) = .ok response.content := if_pos success
  simp only [Reply.envelope?, answered, outcome]

/-- Without an answer of success that can be read, something is wrong with the network. -/
theorem hear_of_unread (node : Node) (unread : reply.envelope? = none) :
    ∃ fault, node.hear reply = (node, .error fault) ∧
      ∀ seen latest, fault ≠ .stale seen latest := by
  obtain ⟨read, request, _ | response⟩ := reply
  · exact ⟨.unsent request.url, rfl, by rintro _ _ ⟨⟩⟩
  · by_cases success : response.isSuccess
    · have outcome : request.outcome (some response) = .ok response.content := if_pos success
      simp only [Reply.envelope?, outcome] at unread
      refine ⟨.undecodable, ?_, by rintro _ _ ⟨⟩⟩
      simp only [hear, outcome, receive, unread]
    · have outcome : request.outcome (some response) =
          .error (.api ("HTTP error: " ++ NetResponse.statusText response.status)) :=
        if_neg success
      refine ⟨.api ("HTTP error: " ++ NetResponse.statusText response.status), ?_,
        by rintro _ _ ⟨⟩⟩
      simp only [hear, outcome, receive]

theorem hear_of_envelope (node : Node) {envelope : Envelope reply.Result}
    (decoded : reply.envelope? = some envelope) : node.hear reply = node.accept envelope := by
  unfold Reply.envelope? at decoded
  unfold hear receive
  generalize reply.request.outcome reply.response = outcome at decoded ⊢
  cases outcome with
  | error fault => cases decoded
  | ok content =>
      change decode? reply.read content = some envelope at decoded
      simp only [decoded]

/-- A refusal moves nothing, and is not stale. -/
theorem hear_of_refused (node : Node)
    (refused : ∀ envelope, reply.envelope? = some envelope → envelope.refusal ≠ none) :
    (node.hear reply).1 = node ∧
      ∀ seen latest, (node.hear reply).2 ≠ .error (.stale seen latest) := by
  rcases decoded : reply.envelope? with _ | envelope
  · obtain ⟨fault, heard, prompt⟩ := hear_of_unread node decoded
    rw [heard]
    exact ⟨rfl, fun seen latest same => prompt seen latest (Except.error.inj same)⟩
  · rw [hear_of_envelope node decoded]
    rcases envelope with ⟨result, _ | refusal, version⟩
    · exact absurd rfl (refused _ decoded)
    · exact ⟨rfl, by rintro _ _ ⟨⟩⟩

theorem accept_of_lt {α : Type} (result : Option α) {seen : UInt64} (less : seen < node.latest) :
    node.accept ⟨result, none, some seen⟩ = (node, .error (.stale seen node.latest)) := if_pos less

theorem accept_of_not_lt {α : Type} (result : Option α) {seen : UInt64}
    (least : ¬ seen < node.latest) :
    node.accept ⟨result, none, some seen⟩ = ({ node with latest := seen }, .ok result) :=
  if_neg least

/-- What refuses nothing is stale if its version is too low, and accepted otherwise. -/
theorem accept_of_unrefused (node : Node) {α : Type} {envelope : Envelope α}
    (unrefused : envelope.refusal = none) :
    (∀ seen latest, (node.accept envelope).2 = .error (.stale seen latest) ↔
      envelope.version = some seen ∧ seen < node.latest ∧ latest = node.latest) ∧
    ((∀ seen, envelope.version = some seen → ¬ seen < node.latest) →
      (node.accept envelope).2 = .ok envelope.result) := by
  rcases envelope with ⟨result, refusal, _ | seen⟩
  all_goals
    change refusal = none at unrefused
    subst unrefused
  · exact ⟨by simp [accept], fun _ => rfl⟩
  · by_cases less : seen < node.latest
    · rw [accept_of_lt result less]
      refine ⟨fun other newer => ⟨?_, ?_⟩, fun least => absurd less (least seen rfl)⟩
      · rintro ⟨⟩
        exact ⟨rfl, less, rfl⟩
      · rintro ⟨⟨⟩, -, rfl⟩
        rfl
    · rw [accept_of_not_lt result less]
      refine ⟨fun other newer => ⟨?_, ?_⟩, fun _ => rfl⟩
      · rintro ⟨⟩
      · rintro ⟨⟨⟩, below, -⟩
        exact absurd below less

/-- All that an answer can do. -/
theorem hear_cases (node : Node) (reply : Reply) :
    (reply.version? = none ∧ (node.hear reply).1 = node) ∨
    (∃ seen, reply.version? = some seen ∧ seen < node.latest ∧
      node.hear reply = (node, .error (.stale seen node.latest))) ∨
    (∃ seen result, reply.version? = some seen ∧ ¬ seen < node.latest ∧
      node.hear reply = ({ node with latest := seen }, .ok result)) := by
  rcases decoded : reply.envelope? with _ | envelope
  · obtain ⟨fault, heard, -⟩ := hear_of_unread node decoded
    exact .inl ⟨by rw [Reply.version?, decoded]; rfl, by rw [heard]⟩
  · have version : reply.version? = if envelope.refusal = none then envelope.version else none := by
      rw [Reply.version?, decoded]
      rfl
    rw [hear_of_envelope node decoded, version]
    rcases envelope with ⟨result, _ | refusal, _ | seen⟩
    · exact .inl ⟨rfl, rfl⟩
    · by_cases less : seen < node.latest
      · exact .inr (.inl ⟨seen, rfl, less, accept_of_lt result less⟩)
      · exact .inr (.inr ⟨seen, result, rfl, less, accept_of_not_lt result less⟩)
    · exact .inl ⟨rfl, rfl⟩
    · exact .inl ⟨rfl, rfl⟩

/-- An answer that comes to nothing leaves the node as it is. -/
theorem hear_of_error {fault : Fault} (rejected : (node.hear reply).2 = .error fault) :
    (node.hear reply).1 = node := by
  rcases hear_cases node reply with ⟨-, same⟩ | ⟨seen, -, -, heard⟩ | ⟨seen, result, -, -, heard⟩
  · exact same
  · rw [heard]
  · rw [heard] at rejected
    cases rejected

end Answer

/-! One happening after another. -/

theorem latest_step (node : Node) (happening : Happening) :
    (node.step happening).latest = happening.version?.toList.foldl max node.latest := by
  cases happening with
  | numbered => rfl
  | answered reply =>
      rw [Happening.version?, step]
      rcases hear_cases node reply with ⟨version, same⟩ | ⟨seen, version, less, heard⟩ |
        ⟨seen, result, version, least, heard⟩
      · rw [version, same]
        rfl
      · rw [version, heard]
        exact (max_of_lt less).symm
      · rw [version, heard]
        exact (max_of_not_lt least).symm

theorem latest_after (node : Node) (happenings : List Happening) :
    (node.after happenings).latest =
      (happenings.filterMap Happening.version?).foldl max node.latest := by
  induction happenings generalizing node with
  | nil => rfl
  | cons happening rest ih =>
      change ((node.step happening).after rest).latest = _
      rw [ih, latest_step]
      cases version : happening.version? with
      | none => rw [List.filterMap_cons_none version]; rfl
      | some seen => rw [List.filterMap_cons_some version]; rfl

theorem latest_le_step (node : Node) (happening : Happening) :
    node.latest ≤ (node.step happening).latest := by
  cases happening with
  | numbered => exact UInt64.le_refl _
  | answered reply =>
      rw [step]
      rcases hear_cases node reply with ⟨-, same⟩ | ⟨seen, -, -, heard⟩ |
        ⟨seen, result, -, least, heard⟩
      · rw [same]
        exact UInt64.le_refl _
      · rw [heard]
        exact UInt64.le_refl _
      · rw [heard]
        exact UInt64.not_lt.mp least

/-- What is accepted is from then on the newest. -/
theorem latest_of_accepted {node : Node} {happening : Happening} {seen : UInt64}
    (accepted : happening.accepted? node = some seen) : (node.step happening).latest = seen := by
  cases happening with
  | numbered => cases accepted
  | answered reply =>
      change (if (node.hear reply).2.toBool then reply.version? else none) = some seen at accepted
      rw [step]
      rcases hear_cases node reply with ⟨version, -⟩ | ⟨other, -, -, heard⟩ |
        ⟨other, result, version, -, heard⟩
      · rw [version, ite_self] at accepted
        cases accepted
      · rw [heard] at accepted
        cases accepted
      · rw [heard, version] at accepted
        cases accepted
        rw [heard]

theorem latest_le_of_mem_acceptedVersions {node : Node} {happenings : List Happening}
    {seen : UInt64} (member : seen ∈ node.acceptedVersions happenings) : node.latest ≤ seen := by
  induction happenings generalizing node with
  | nil => cases member
  | cons happening rest ih =>
      have onward := latest_le_step node happening
      -- What is accepted now becomes the newest, and the newest never falls.
      rcases List.mem_append.mp member with now | later
      · rw [← latest_of_accepted (Option.mem_toList.mp now)]
        exact onward
      · exact UInt64.le_trans onward (ih later)

theorem pairwise_acceptedVersions (node : Node) (happenings : List Happening) :
    (node.acceptedVersions happenings).Pairwise (· ≤ ·) := by
  induction happenings generalizing node with
  | nil => exact .nil
  | cons happening rest ih =>
      refine List.pairwise_append.mpr ⟨?_, ih _, ?_⟩
      · cases happening.accepted? node with
        | none => exact .nil
        | some seen => exact List.pairwise_singleton _ _
      · intro seen now other later
        rw [← latest_of_accepted (Option.mem_toList.mp now)]
        exact latest_le_of_mem_acceptedVersions later

/-- A call takes its number, sends its request and hears the answer to it. -/
theorem run_call {m : Type → Type} [Monad m] [LawfulMonad m] {α : Type} {contact : Contact m}
    {url : Url} (located : Url.located contact.address = .ok url) (web : url.isWeb)
    (method : String) (params : List Json) (read : Json → Option α) (node : Node) :
    StateT.run (ExceptT.run (call contact method params read)) node = do
      contact.tell method
      let request : NetRequest := ⟨.post (node.content method params), url⟩
      let response ← contact.transport request
      let heard := (node.step .numbered).hear ⟨read, request, response⟩
      return (heard.2, heard.1) := by
  have sent (request : NetRequest) (served : request.url = url) :
      (exchange contact.transport request).run = request.outcome <$> contact.transport request := by
    rw [exchange, if_pos (served ▸ web)]
    rfl
  change (do contact.tell method; _) = _
  simp only [located, sent, bind_map_left]
  rfl

/-- Whatever has happened to a node, the newest version it remembers is the newest that an answer
told of which could be read and refused nothing. No other answer moves it or is stale. An answer is
rejected, with both versions, if its version is below the newest of those before it, and leaves that
as it is; without a version, or with one that is not below, it is accepted. So no version that is
accepted is below one accepted before. Result, refusal and version of an answer are what stands
under their names in its body, and a call of the client is one that hears the answer to its own
request. -/
theorem newest_kept (before : List Happening) (reply : Reply) :
    let node := ({} : Node).after before
    node.latest = newest before ∧
    ((∀ envelope, reply.envelope? = some envelope → envelope.refusal ≠ none) →
      (node.hear reply).1 = node ∧
        ∀ seen latest, (node.hear reply).2 ≠ .error (.stale seen latest)) ∧
    (∀ envelope, reply.envelope? = some envelope → envelope.refusal = none →
      (∀ seen latest, (node.hear reply).2 = .error (.stale seen latest) ↔
        envelope.version = some seen ∧ seen < newest before ∧ latest = newest before) ∧
      ((∀ seen, envelope.version = some seen → ¬ seen < newest before) →
        (node.hear reply).2 = .ok envelope.result)) ∧
    (∀ fault, (node.hear reply).2 = .error fault → (node.hear reply).1 = node) ∧
    (({} : Node).acceptedVersions before).Pairwise (· ≤ ·) ∧
    (∀ response written members, reply.response = some response → response.isSuccess = true →
      Json.parse? response.content = some (.object written) →
      Json.named? written = some members → (members.map Prod.fst).Nodup →
        ∀ envelope, reply.envelope? = some envelope ↔
          Json.Holds members "result" reply.read envelope.result ∧
          Json.Holds members "error" Refusal.ofJson? envelope.refusal ∧
          Json.Holds members "diem_ledger_version" Json.uint64? envelope.version) ∧
    ∀ {m : Type → Type} [Monad m] [LawfulMonad m] {α : Type} (contact : Contact m) (url : Url),
      Url.located contact.address = .ok url → url.isWeb → ∀ method params (read : Json → Option α),
        StateT.run (ExceptT.run (call contact method params read)) node = do
          contact.tell method
          let request : NetRequest := ⟨.post (node.content method params), url⟩
          let response ← contact.transport request
          let heard := (node.step .numbered).hear ⟨read, request, response⟩
          return (heard.2, heard.1) := by
  intro node
  have latest : node.latest = newest before := latest_after {} before
  refine ⟨latest, node.hear_of_refused, ?_, fun fault => hear_of_error,
    pairwise_acceptedVersions {} before, ?_, ?_⟩
  · intro envelope decoded unrefused
    rw [hear_of_envelope node decoded, ← latest]
    exact node.accept_of_unrefused unrefused
  · intro response written members answered success parsed named distinct envelope
    rw [envelope?_of_success answered success, decode?, parsed, Option.bind_some]
    exact ofJson?_eq_some_iff named distinct envelope
  · intro m _ _ α contact url located web method params read
    exact run_call located web method params read node

namespace Sample

/-- An answer of success with these members. -/
def told (members : List (String × Json)) : Reply where
  read := Json.uint64?
  request := ⟨.get, default⟩
  response := some ⟨200, (Json.record members).render⟩

/-- The members of an answer with a result and a version. -/
def members (result version : UInt64) : List (String × Json) :=
  [("jsonrpc", .text "2.0"), ("diem_ledger_version", .ofUInt64 version),
    ("result", .ofUInt64 result)]

theorem plain_members (result version : UInt64) :
    Json.Plain 1 (.record (members result version)) := by
  refine .record ?_
  simp [members, Json.Plain.text, Json.plain_ofUInt64]

/-- The members of a refusal that names a version. -/
def refusal (version : UInt64) : List (String × Json) :=
  [("error", .record [("code", .ofInt64 (-32000)), ("message", .text "busy")]),
    ("diem_ledger_version", .ofUInt64 version)]

theorem plain_refusal (version : UInt64) : Json.Plain 2 (.record (refusal version)) := by
  refine .record ?_
  simp only [refusal, List.forall_mem_cons]
  refine ⟨.record ?_, Json.plain_ofUInt64 version, nofun⟩
  simp [Json.plain_ofInt64, Json.Plain.text]

/-- An answer is at version 120, and a refusal names a later version; between them a call is
made. -/
def before : List Happening :=
  [.answered (told (members 7 120)), .numbered, .answered (told (refusal 500))]

theorem holds_ofUInt64 {members : List (String × Json)} {name : String} {value : UInt64}
    (held : (name, .ofUInt64 value) ∈ members) :
    Json.Holds members name Json.uint64? (some value) :=
  .given held nofun (Json.uint64?_ofUInt64 value)

end Sample

/-- A refusal is none of staleness. Of two answers in good order the one at version 90 is rejected,
and the one that is at version 120 again is accepted. -/
theorem newest_kept_sample :
    let node := ({} : Node).after Sample.before
    node.latest = 120 ∧
    (node.hear (Sample.told (Sample.refusal 500))).2 = .error (.rpc (-32000) "busy") ∧
    node.hear (Sample.told (Sample.members 8 90)) = (node, .error (.stale 90 120)) ∧
    (node.hear (Sample.told (Sample.members 8 120))).2 = .ok (some (8 : UInt64)) := by
  intro node
  have newest : newest Sample.before = 120 := by decide +kernel
  have refused : (Sample.told (Sample.refusal 500)).envelope? =
      some ⟨none, some ⟨-32000, "busy"⟩, some 500⟩ := by
    obtain ⟨_, _, _, _, _, bodies, _⟩ :=
      newest_kept Sample.before (Sample.told (Sample.refusal 500))
    refine (bodies _ _ (Sample.refusal 500) rfl rfl
      (Json.parse?_render (Sample.plain_refusal 500).spelled) (Json.named?_record _)
      (by simp [Sample.refusal]) _).mpr ⟨.missing (by simp [Sample.refusal]), ?_, ?_⟩
    · exact .given List.mem_cons_self nofun (by decide +kernel)
    · exact Sample.holds_ofUInt64 (by simp [Sample.refusal])
  have holds (result version : UInt64) : (Sample.told (Sample.members result version)).envelope? =
      some ⟨some result, none, some version⟩ := by
    obtain ⟨_, _, _, _, _, bodies, _⟩ :=
      newest_kept Sample.before (Sample.told (Sample.members result version))
    refine (bodies _ _ (Sample.members result version) rfl rfl
      (Json.parse?_render (Sample.plain_members result version).spelled) (Json.named?_record _)
      (by simp [Sample.members]) _).mpr ⟨?_, .missing (by simp [Sample.members]), ?_⟩
    · exact Sample.holds_ofUInt64 (by simp [Sample.members])
    · exact Sample.holds_ofUInt64 (by simp [Sample.members])
  obtain ⟨latest, _, behind, still, _⟩ :=
    newest_kept Sample.before (Sample.told (Sample.members 8 90))
  obtain ⟨_, _, again, _⟩ := newest_kept Sample.before (Sample.told (Sample.members 8 120))
  rw [newest] at latest behind again
  refine ⟨latest, by rw [hear_of_envelope node refused]; rfl, ?_, (again _ (holds 8 120) rfl).2 ?_⟩
  · have rejected := ((behind _ (holds 8 90) rfl).1 90 120).mpr ⟨rfl, by decide, rfl⟩
    exact Prod.ext (still _ rejected) rejected
  · rintro seen ⟨⟩
    decide

end Passbook.Node
