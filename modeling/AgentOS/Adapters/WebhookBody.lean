import AgentOS.Adapters.FeishuAdapter

/-!
# Bodies that the webhook can read

Every parser of the webhook looks its fields up with a default for a missing one and takes what it
finds as it is. So each of them is safe for the bodies whose fields, where they are present, have
the expected types.
-/

namespace AgentOS

open Python

namespace FeishuAdapter

/-- What `value.get(key, default)` returns for a `dict`. -/
def fieldOr (value : Json) (key : String) (default : Json) : Json :=
  (value.get? (py key)).getD default

/-- A `dict`. -/
def IsDict (value : Json) : Prop := ∃ fields, value = .obj fields

/-- A `str`. -/
def IsString (value : Json) : Prop := ∃ text, value = .str text

variable {value body : Json} {key : String} {default : Json} {α : Type}

theorem getField_dict (dict : IsDict value) (key : String) (default : Json) :
    getField value key default = .ok (fieldOr value key default) := by
  rcases dict with ⟨fields, rfl⟩
  rfl

theorem getField_foreign (foreign : ¬ IsDict value) (key : String) (default : Json) :
    ∃ exc, getField value key default = .error exc := by
  rcases value with _ | _ | _ | _ | _ | _ | fields
  case obj => exact absurd ⟨fields, rfl⟩ foreign
  all_goals exact ⟨_, rfl⟩

/-- A lookup after which the rest is done returns when the value is a `dict`. -/
theorem getField_bind_iff {rest : Json → Except Exc α} {Returned : α → Prop} :
    (∃ result, (getField value key default >>= rest) = .ok result ∧ Returned result) ↔
      IsDict value ∧ ∃ result, rest (fieldOr value key default) = .ok result ∧ Returned result := by
  by_cases dict : IsDict value
  · rw [getField_dict dict]
    simp [dict, bind, Except.bind]
  · rcases getField_foreign dict key default with ⟨exc, raised⟩
    rw [raised]
    simp [dict, bind, Except.bind]

/-! ### The challenge -/

/-- A value of which the first eight elements can be taken. -/
def HasFront : Json → Prop
  | .str _ | .arr _ => True
  | _ => False

/-- A challenge comes with a token that is a string or a list, or without one. -/
def ChallengeReadable (body : Json) : Prop :=
  (fieldOr body "challenge" .null).truthy = true → HasFront (fieldOr body "token" (.str []))

theorem verifyChallenge_iff (dict : IsDict body) :
    (∃ reply, verifyChallenge body = .ok reply ∧ True) ↔ ChallengeReadable body := by
  unfold verifyChallenge ChallengeReadable
  rw [getField_bind_iff]
  simp only [dict, true_and]
  split
  · rename_i challenged
    rw [getField_bind_iff]
    simp only [dict, true_and]
    rw [getField_bind_iff]
    simp only [dict, true_and, challenged, forall_const]
    rcases fieldOr body "token" (.str []) with _ | _ | _ | _ | _ | _ | _ <;>
      simp [sliceFront, HasFront, bind, Except.bind, pure, Except.pure]
  · rename_i quiet
    simp [quiet, pure, Except.pure]

/-! ### The card -/

/-- The button carries a decision about a run. -/
def IsApproval (button : Json) : Prop :=
  (fieldOr button "run_id" (.str [])).truthy = true ∧
    ∃ decision, fieldOr button "action" (.str []) = .str decision ∧ isDecision decision = true

/-- The reason in the input field, or else the option that was chosen. -/
def reasonOf (action : Json) : Json :=
  if (fieldOr action "input" (.str [])).truthy then fieldOr action "input" (.str [])
  else fieldOr action "option" (.str [])

/-- The action is a `dict` and has a `dict` as its value, and an approval has strings only. -/
def CardReadable (body : Json) : Prop :=
  let action := fieldOr body "action" (.obj [])
  let button := fieldOr action "value" (.obj [])
  IsDict action ∧ IsDict button ∧ (IsApproval button →
    IsString (fieldOr button "run_id" (.str [])) ∧ IsString (fieldOr button "step_id" (.str [])) ∧
      IsString (fieldOr body "open_id" (.str (py "unknown"))) ∧ IsString (reasonOf action))

/-- What `parse_card_callback` promises: nothing, or strings. -/
def IsCallback (callback : Option CardCallback) : Prop :=
  ∀ c, callback = some c → (∃ runId, c.runId = .str runId ∧ runId ≠ []) ∧ IsString c.stepId ∧
    IsString c.reviewer ∧ IsString c.reason

/-- The end of `parse_card_callback`, when everything was looked up. -/
def callbackOf (runId stepId decision reviewer reason : Json) :
    Except Exc (Option CardCallback) :=
  match decision with
  | .str decision =>
      if decided : isDecision decision = true then
        pure (if runId.truthy then some { runId, stepId, decision, reviewer, reason, decided }
          else none)
      else pure none
  | _ => pure none

theorem isString_of_truthy {value : Json} (truthy : value.truthy = true) :
    (∃ text, value = .str text ∧ text ≠ []) ↔ IsString value := by
  constructor
  · rintro ⟨text, rfl, -⟩
    exact ⟨text, rfl⟩
  · rintro ⟨text, rfl⟩
    refine ⟨text, rfl, ?_⟩
    simpa [Json.truthy] using truthy

theorem callbackOf_iff (runId stepId decision reviewer reason : Json) :
    (∃ callback, callbackOf runId stepId decision reviewer reason = .ok callback ∧
        IsCallback callback) ↔
      ((runId.truthy = true ∧ ∃ text, decision = .str text ∧ isDecision text = true) →
        IsString runId ∧ IsString stepId ∧ IsString reviewer ∧ IsString reason) := by
  have nothing : IsCallback none := by
    rintro c ⟨⟩
  unfold callbackOf
  rcases decision with _ | _ | _ | _ | text | _ | _
  case str =>
    dsimp only
    split
    · rename_i decided
      by_cases truthy : runId.truthy = true
      · simp only [truthy, decided, if_true, true_and, Json.str.injEq, exists_eq_left',
          forall_const,
          pure, Except.pure, Except.ok.injEq, IsCallback, Option.some.injEq, forall_eq',
          isString_of_truthy truthy]
      · simp [truthy, pure, Except.pure, nothing]
    · rename_i undecided
      simp [undecided, pure, Except.pure, nothing]
  all_goals simp [pure, Except.pure, nothing]

theorem parseCardCallback_iff (dict : IsDict body) :
    (∃ callback, parseCardCallback body = .ok callback ∧ IsCallback callback) ↔
      CardReadable body := by
  unfold parseCardCallback CardReadable
  rw [getField_bind_iff]
  simp only [dict, true_and]
  rw [getField_bind_iff]
  refine and_congr_right fun inAction => ?_
  rw [getField_bind_iff]
  refine and_congr_right fun inButton => ?_
  rw [getField_bind_iff]
  simp only [inButton, true_and]
  rw [getField_bind_iff]
  simp only [inButton, true_and]
  rw [getField_bind_iff]
  simp only [inAction, true_and]
  let action := fieldOr body "action" (.obj [])
  let button := fieldOr action "value" (.obj [])
  have ends : ∀ reason, (∃ callback, (getField body "open_id" (.str (py "unknown")) >>=
      fun reviewer => callbackOf (fieldOr button "run_id" (.str []))
        (fieldOr button "step_id" (.str [])) (fieldOr button "action" (.str [])) reviewer reason) =
          .ok callback ∧ IsCallback callback) ↔ (IsApproval button →
            IsString (fieldOr button "run_id" (.str [])) ∧
              IsString (fieldOr button "step_id" (.str [])) ∧
                IsString (fieldOr body "open_id" (.str (py "unknown"))) ∧ IsString reason) := by
    intro reason
    rw [getField_bind_iff, callbackOf_iff]
    simp only [dict, true_and]
    rfl
  by_cases written : (fieldOr action "input" (.str [])).truthy = true
  · rw [if_pos written]
    have reason : reasonOf action = fieldOr action "input" (.str []) := if_pos written
    rw [reason]
    exact ends _
  · rw [if_neg written]
    have reason : reasonOf action = fieldOr action "option" (.str []) := if_neg written
    rw [reason, getField_bind_iff]
    refine (and_iff_right inAction).trans (ends _)

/-! ### The message -/

section Event

variable {loads : Str → Except Exc Json}

/-- The content is a string; if that is a document, it is a `dict`, and a text in it is a string
and comes with a sender that has ids. -/
def ContentReadable (loads : Str → Except Exc Json) (message sender : Json) : Prop :=
  ∃ document, fieldOr message "content" (.str (py "\x7b\x7d")) = .str document ∧
    (∀ exc, loads document = .error exc → exc.cls = .other (py "JSONDecodeError")) ∧
    ∀ content, loads document = .ok content → IsDict content ∧
      ((fieldOr content "text" (.str [])).truthy = true →
        IsDict sender ∧ IsDict (fieldOr sender "sender_id" (.obj [])) ∧
          IsString (fieldOr content "text" (.str [])))

/-- The header is a `dict`, and so are a message event and its message. -/
def EventReadable (loads : Str → Except Exc Json) (body : Json) : Prop :=
  let header := fieldOr body "header" (.obj [])
  let event := fieldOr body "event" (.obj [])
  IsDict header ∧
    (fieldOr header "event_type" (.str []) = .str (py "im.message.receive_v1") →
      IsDict event ∧ IsDict (fieldOr event "message" (.obj [])) ∧
        ContentReadable loads (fieldOr event "message" (.obj []))
          (fieldOr event "sender" (.obj [])))

/-- What `parse_event` promises: nothing, or a message with a text. -/
def IsMessage (message : Option EventMessage) : Prop :=
  ∀ m, message = some m → ∃ text, m.text = .str text ∧ text ≠ []

/-- What `loadContent` makes of the content. -/
theorem loadContent_bind_iff {rest : Json → Except Exc α} {Returned : α → Prop} (content : Json) :
    (∃ result, (loadContent loads content >>= rest) = .ok result ∧ Returned result) ↔
      ∃ document, content = .str document ∧
        ((∃ loaded, loads document = .ok loaded ∧
            ∃ result, rest loaded = .ok result ∧ Returned result) ∨
          ((∃ exc, loads document = .error exc ∧ exc.cls = .other (py "JSONDecodeError")) ∧
            ∃ result, rest (.obj []) = .ok result ∧ Returned result)) := by
  rcases content with _ | _ | _ | _ | document | _ | _
  case str =>
    simp only [loadContent, Json.str.injEq, exists_eq_left']
    rcases loads document with exc | loaded
    · by_cases decode : exc.cls = .other (py "JSONDecodeError")
      · simp [decode, bind, Except.bind]
      · simp [decode, bind, Except.bind]
    · simp [bind, Except.bind]
  all_goals simp [loadContent, bind, Except.bind]

/-- The end of `_parse_im_message`, when the content was loaded. -/
def messageOf (message sender content : Json) : Except Exc (Option EventMessage) := do
  let text ← getField content "text" (.str [])
  if text.truthy then
    let senderIds ← getField sender "sender_id" (.obj [])
    let senderId ← getField senderIds "user_id" (.str (py "unknown"))
    let senderName ← getField senderIds "open_id" (.str (py "unknown"))
    let messageId ← getField message "message_id" (.str [])
    let chatId ← getField message "chat_id" (.str [])
    let messageType ← getField message "message_type" (.str (py "text"))
    return some {
      text, senderId, senderName, channel := py "feishu", messageId, chatId, messageType }
  else return none

theorem messageOf_iff {message sender content : Json} (inMessage : IsDict message) :
    (∃ result, messageOf message sender content = .ok result ∧ IsMessage result) ↔
      IsDict content ∧ ((fieldOr content "text" (.str [])).truthy = true →
        IsDict sender ∧ IsDict (fieldOr sender "sender_id" (.obj [])) ∧
          IsString (fieldOr content "text" (.str []))) := by
  have nothing : IsMessage none := by
    rintro m ⟨⟩
  unfold messageOf
  rw [getField_bind_iff]
  refine and_congr_right fun _ => ?_
  split
  · rename_i written
    simp only [written, forall_const]
    rw [getField_bind_iff]
    refine and_congr_right fun _ => ?_
    rw [getField_bind_iff]
    refine and_congr_right fun inIds => ?_
    rw [getField_bind_iff]
    simp only [inIds, true_and]
    rw [getField_bind_iff]
    simp only [inMessage, true_and]
    rw [getField_bind_iff]
    simp only [inMessage, true_and]
    rw [getField_bind_iff]
    simp only [inMessage, true_and, pure, Except.pure, Except.ok.injEq, exists_eq_left', IsMessage,
      Option.some.injEq, forall_eq']
    exact isString_of_truthy written
  · rename_i unwritten
    simp [unwritten, pure, Except.pure, nothing]

theorem parseImMessage_iff (event : Json) :
    (∃ message, parseImMessage loads event = .ok message ∧ IsMessage message) ↔
      IsDict event ∧ IsDict (fieldOr event "message" (.obj [])) ∧
        ContentReadable loads (fieldOr event "message" (.obj []))
          (fieldOr event "sender" (.obj [])) := by
  unfold parseImMessage ContentReadable
  rw [getField_bind_iff]
  refine and_congr_right fun inEvent => ?_
  rw [getField_bind_iff]
  simp only [inEvent, true_and]
  rw [getField_bind_iff]
  refine and_congr_right fun inMessage => ?_
  rw [loadContent_bind_iff]
  refine exists_congr fun document => and_congr_right fun _ => ?_
  have ends := fun content => @messageOf_iff _ (fieldOr event "sender" (.obj [])) content inMessage
  have empty : ∃ result, messageOf (fieldOr event "message" (.obj []))
      (fieldOr event "sender" (.obj [])) (.obj []) = .ok result ∧ IsMessage result :=
    (ends (.obj [])).mpr ⟨⟨[], rfl⟩, by simp [fieldOr, Json.get?, Json.truthy]⟩
  rcases loads document with exc | content
  · simp only [reduceCtorEq, false_and, exists_false, false_or, Except.error.injEq, exists_eq_left',
      forall_eq', IsEmpty.forall_iff, implies_true, and_true]
    exact and_iff_left empty
  · simp only [Except.ok.injEq, exists_eq_left', reduceCtorEq, false_and, exists_false, or_false,
      IsEmpty.forall_iff, implies_true, forall_eq', true_and]
    exact ends content

theorem parseEvent_iff (dict : IsDict body) :
    (∃ message, parseEvent loads body = .ok message ∧ IsMessage message) ↔
      EventReadable loads body := by
  have nothing : IsMessage none := by
    rintro m ⟨⟩
  unfold parseEvent EventReadable
  rw [getField_bind_iff]
  simp only [dict, true_and]
  rw [getField_bind_iff]
  refine and_congr_right fun inHeader => ?_
  rw [getField_bind_iff]
  simp only [dict, true_and]
  rw [← parseImMessage_iff]
  rcases fieldOr (fieldOr body "header" (.obj [])) "event_type" (.str []) with
    _ | _ | _ | _ | eventType | _ | _
  case str =>
    by_cases message : eventType = py "im.message.receive_v1"
    · simp [Json.isStr, message]
    · simp [Json.isStr, message, pure, Except.pure, nothing]
  all_goals simp [Json.isStr, pure, Except.pure, nothing]

end Event

/-! ### All three parsers -/

/-- The parsers return for the body, and return nothing or what they promise. -/
structure ParsersTotal (loads : Str → Except Exc Json) (body : Json) : Prop where
  challenge : ∃ reply, verifyChallenge body = .ok reply
  card : ∃ callback, parseCardCallback body = .ok callback ∧ IsCallback callback
  event : ∃ message, parseEvent loads body = .ok message ∧ IsMessage message

/-- The parsers are total for the bodies whose fields have the types that they rely on. -/
theorem parsersTotal_iff (loads : Str → Except Exc Json) (fields : List (Str × Json)) :
    ParsersTotal loads (.obj fields) ↔ ChallengeReadable (.obj fields) ∧
      CardReadable (.obj fields) ∧ EventReadable loads (.obj fields) := by
  have dict : IsDict (.obj fields) := ⟨fields, rfl⟩
  rw [← verifyChallenge_iff dict, ← parseCardCallback_iff dict, ← parseEvent_iff dict]
  constructor
  · rintro ⟨⟨reply, answered⟩, card, event⟩
    exact ⟨⟨reply, answered, trivial⟩, card, event⟩
  · rintro ⟨⟨reply, answered, -⟩, card, event⟩
    exact ⟨⟨reply, answered⟩, card, event⟩

end FeishuAdapter

namespace Sample

/-- A null where the card has its action is no missing action. -/
theorem null_action_raises : ¬ FeishuAdapter.ParsersTotal (fun _ => .ok (.obj []))
    (.obj [(py "action", .null)]) := by
  intro total
  rcases total.card with ⟨callback, returned, -⟩
  have raised : FeishuAdapter.parseCardCallback (.obj [(py "action", .null)]) =
      .error (.builtin "AttributeError" (py "'NoneType' object has no attribute 'get'")) := rfl
  cases raised.symm.trans returned

end Sample

end AgentOS
