import AgentOS.Adapters.FeishuAdapter
import AgentOS.Cooperative.Stepping
import AgentOS.Governance.Replay

/-!
# Lark client

The Feishu adapter replies and sends its approval cards with an access token that all its calls
share. A token that is about to expire is asked for again, and other calls go on in the meantime.
Whatever the order, a message bears a token that the API has granted, and one that is reused has
more than a minute left.
-/

namespace AgentOS

open Python Cooperative Relation

/-- What is posted to the Lark API; a content is posted as its `json.dumps`. -/
inductive LarkRequest where
  | tenantAccessToken (appId appSecret : Str)
  | reply (messageId : Str) (token content : Json)
  | message (receiveId : Str) (token content : Json)

/-- The token in the `Authorization` header. -/
def LarkRequest.bearer : LarkRequest → Option Json
  | .tenantAccessToken _ _ => none
  | .reply _ token _ | .message _ token _ => some token

/-- What the calls of the adapter do, each under its number. -/
inductive LarkEvent where
  | posted (call : ℕ) (request : LarkRequest)
  | granted (call : ℕ) (token : Json) (received lifetime : ℚ)
  | reused (call : ℕ) (token : Json) (now : ℚ)

structure LarkState where
  tenantAccessToken : Json
  tokenExpiresAt : ℚ
  history : List LarkEvent

abbrev LarkWorld := Timed LarkState

namespace LarkState

def initial : LarkState := ⟨.null, 0, []⟩

def note (event : LarkEvent) (lark : LarkState) : LarkState :=
  { lark with history := event :: lark.history }

def setToken (token : Json) (lark : LarkState) : LarkState :=
  { lark with tenantAccessToken := token }

def setExpiry (expiresAt : ℚ) (lark : LarkState) : LarkState :=
  { lark with tokenExpiresAt := expiresAt }

end LarkState

/-- The adapter as the API answers it. -/
structure LarkClient where
  appId : Str
  appSecret : Str
  /-- The outcomes of `client.post` and `raise_for_status`, with the `json()` of the response. -/
  post : LarkRequest → ℕ → Except Exc Json

namespace LarkClient

/-- A number that is added to a float. -/
def seconds : Json → Except Exc ℚ
  | .int value =>
      if exceedsFloat value then
        .error (.builtin "OverflowError" (py "int too large to convert to float"))
      else .ok value
  | .float value => .ok value
  | .bool value => .ok (if value then 1 else 0)
  | other => .error (.builtin "TypeError"
      (py "unsupported operand type(s) for +: 'float' and '" ++ other.typeName ++ py "'"))

variable (host : Host) (client : LarkClient) (call : ℕ)

/-- The first lines of `_get_tenant_access_token`. -/
def cachedToken : Action Exc LarkWorld (Option Json) := do
  let token ← Timed.view LarkState.tenantAccessToken
  if token.truthy then
    let now ← host.readTime
    let expiresAt ← Timed.view LarkState.tokenExpiresAt
    if now < expiresAt - 60 then
      Timed.modify (LarkState.note (.reused call token now))
      return some token
    else return none
  else return none

/-- What `_get_tenant_access_token` does with the answer; the token is kept first. -/
def receiveToken (data : Json) : Action Exc LarkWorld Json := do
  let token ← ofExcept (getField data "tenant_access_token" .null)
  Timed.modify (LarkState.setToken token)
  let expire ← ofExcept (getField data "expire" (.int 7200))
  let received ← host.readTime
  let lifetime ← ofExcept (seconds expire)
  Timed.modify (LarkState.setExpiry (received + lifetime))
  Timed.modify (LarkState.note (.granted call token received lifetime))
  return token

def send (request : LarkRequest) : Coro Exc LarkWorld Json :=
  Coro.sync do
    Timed.modify (LarkState.note (.posted call request))
    Timed.outcome (client.post request)

/-- `_get_tenant_access_token`. -/
def getTenantAccessToken : Coro Exc LarkWorld Json := do
  match ← Coro.sync (cachedToken host call) with
  | some token => return token
  | none =>
      if client.appId = [] ∨ client.appSecret = [] then return .null
      else
        tryCatch
          (do
            let data ← client.send call (.tenantAccessToken client.appId client.appSecret)
            Coro.sync (receiveToken host call data))
          fun _ => return .null

/-- The end of `_send_text_message` and of `send_approval_card`. -/
def deliver (request : LarkRequest) : Coro Exc LarkWorld Bool :=
  tryCatch
    (do
      let _ ← client.send call request
      return true)
    fun _ => return false

/-- `_send_text_message`. -/
def sendTextMessage (messageId text : Str) : Coro Exc LarkWorld Bool := do
  let token ← client.getTenantAccessToken host call
  if token.truthy then client.deliver call (.reply messageId token (.obj [(py "text", .str text)]))
  else return false

/-- The card without a payload. -/
def plainCard (title message : Str) : Json :=
  let plainText (content : Str) : Json :=
    .obj [(py "tag", .str (py "plain_text")), (py "content", .str content)]
  .obj [(py "config", .obj [(py "wide_screen_mode", .bool true)]),
    (py "header", .obj [(py "title", plainText title)]),
    (py "elements", .arr [.obj [(py "tag", .str (py "div")), (py "text", plainText message)]])]

/-- `send_approval_card`; the run id is only logged. -/
def sendApprovalCard (chatId title message : Str) (cardPayload : Json) :
    Coro Exc LarkWorld Bool := do
  let token ← client.getTenantAccessToken host call
  if token.truthy then
    if chatId = [] then return false
    else
      client.deliver call (.message chatId token
        (if cardPayload.truthy then cardPayload else plainCard title message))
  else return false

end LarkClient

inductive LarkCall where
  | reply (messageId text : Str)
  | approvalCard (chatId title message : Str) (cardPayload : Json)

namespace LarkClient

variable (host : Host) (client : LarkClient)

def task (call : ℕ) : LarkCall → Coro Exc LarkWorld Bool
  | .reply messageId text => client.sendTextMessage host call messageId text
  | .approvalCard chatId title message cardPayload =>
      client.sendApprovalCard host call chatId title message cardPayload

/-- The calls, interleaved as the schedule says. -/
def serve (calls : ℕ → LarkCall) (schedule : List ℕ) : Pool ℕ Exc LarkWorld Bool :=
  Pool.exec ⟨⟨0, LarkState.initial⟩, fun i => client.task host i (calls i)⟩ schedule

/-- The call was granted the token, or found it in the cache. -/
inductive Holds (call : ℕ) (token : Json) (history : List LarkEvent) : Prop
  | granted {received lifetime : ℚ} (grant : .granted call token received lifetime ∈ history)
  | reused {now : ℚ} (reuse : .reused call token now ∈ history)

/-- What entitles a call to an event, given what happened before. -/
inductive Vouched (client : LarkClient) : LarkEvent → List LarkEvent → Prop
  | asked {call : ℕ} {earlier : List LarkEvent} (named : client.appId ≠ [])
      (secret : client.appSecret ≠ []) : Vouched client
        (.posted call (.tenantAccessToken client.appId client.appSecret)) earlier
  | sent {call : ℕ} {request : LarkRequest} {token : Json} {earlier : List LarkEvent}
      (bears : request.bearer = some token) (truthy : token.truthy = true)
      (holds : Holds call token earlier) : Vouched client (.posted call request) earlier
  | granted {call : ℕ} {token : Json} {received lifetime : ℚ} {earlier : List LarkEvent}
      (asked : .posted call (.tenantAccessToken client.appId client.appSecret) ∈ earlier) :
      Vouched client (.granted call token received lifetime) earlier
  | reused {call other : ℕ} {token : Json} {now received lifetime : ℚ} {earlier : List LarkEvent}
      (truthy : token.truthy = true) (grant : .granted other token received lifetime ∈ earlier)
      (left : now + 60 < received + lifetime) : Vouched client (.reused call token now) earlier

/-- A grant lasts for a number of seconds. -/
def GrantsTime (client : LarkClient) : Prop :=
  ∀ tick data expire,
    client.post (.tenantAccessToken client.appId client.appSecret) tick = .ok data →
      getField data "expire" (.int 7200) = .ok expire → ∃ lifetime, seconds expire = .ok lifetime

/-- Every event is vouched for, and the cached token was granted until it expires. -/
structure Sound (client : LarkClient) (lark : LarkState) : Prop where
  vouched : EventLog.Each (Vouched client) lark.history
  cached : lark.tenantAccessToken.truthy = true → ∃ call received lifetime,
    .granted call lark.tenantAccessToken received lifetime ∈ lark.history ∧
      lark.tokenExpiresAt = received + lifetime

/-- A step loses no event, and keeps what is sound. -/
structure LarkStep (client : LarkClient) (world world' : LarkWorld) : Prop where
  grows : world.state.history ⊆ world'.state.history
  sound : client.Sound world.state → client.Sound world'.state

variable {host client} {call : ℕ} {token : Json} {history : List LarkEvent}
  {world world' origin : LarkWorld}

/-- What has one field has every field, if only by its default. -/
theorem getField_ok {value found default : Json} {key : String}
    (read : getField value key default = .ok found) (other : String) (default' : Json) :
    ∃ found', getField value other default' = .ok found' := by
  unfold getField at read ⊢
  split at read
  · exact ⟨_, rfl⟩
  · cases read

theorem Holds.grows {later : List LarkEvent} (holds : Holds call token history)
    (grows : history ⊆ later) : Holds call token later := by
  cases holds with
  | granted grant => exact .granted (grows grant)
  | reused reuse => exact .reused (grows reuse)

theorem LarkStep.of_same (same : world'.state = world.state) : client.LarkStep world world' := by
  constructor
  · rw [same]
    exact List.Subset.refl _
  · rw [same]
    exact id

theorem history_grows (moved : ReflTransGen client.LarkStep world world') :
    world.state.history ⊆ world'.state.history := by
  induction moved with
  | refl => exact List.Subset.refl _
  | tail _ step ih => exact List.Subset.trans ih step.grows

theorem sound_of_moved (moved : ReflTransGen client.LarkStep world world')
    (sound : client.Sound world.state) : client.Sound world'.state := by
  induction moved with
  | refl => exact sound
  | tail _ step ih => exact step.sound ih

theorem step_note {event : LarkEvent} (vouched : client.Sound world.state →
    Vouched client event world.state.history) (tick : ℕ) :
    client.LarkStep world ⟨tick, world.state.note event⟩ where
  grows := List.subset_cons_self event world.state.history
  sound := by
    intro sound
    refine ⟨⟨vouched sound, sound.vouched⟩, ?_⟩
    intro truthy
    rcases sound.cached truthy with ⟨other, received, lifetime, grant, expires⟩
    exact ⟨other, received, lifetime, List.mem_cons_of_mem _ grant, expires⟩

/-- A request is posted by a call that may post it, and is answered. -/
theorem send_steps {request : LarkRequest}
    (vouched : ∀ history, origin.state.history ⊆ history → Vouched client (.posted call request)
      history) :
    (client.send call request).Steps client.LarkStep (fun result world =>
      .posted call request ∈ world.state.history ∧ ∃ tick, result = client.post request tick)
      origin := by
  apply Coro.steps_sync
  intro world moved
  have may := vouched _ (history_grows moved)
  exact ⟨step_note (fun _ => may) _, List.mem_cons_self, world.tick, rfl⟩

/-- A cached token has more than a minute left. -/
theorem cachedToken_steps (host : Host) (client : LarkClient) (call : ℕ) (origin : LarkWorld) :
    (Coro.sync (cachedToken host call)).Steps client.LarkStep (fun result world =>
      result = .ok none ∨ ∃ token, result = .ok (some token) ∧
        Holds call token world.state.history) origin := by
  apply Coro.steps_sync
  intro world _
  unfold cachedToken
  rw [Action.bind_apply, Timed.view_apply]
  dsimp only
  split
  · rename_i truthy
    rw [Action.bind_apply, Host.readTime_apply]
    dsimp only
    rw [Action.bind_apply, Timed.view_apply]
    dsimp only
    split
    · rename_i early
      refine ⟨step_note ?_ _, .inr ⟨_, rfl, .reused List.mem_cons_self⟩⟩
      intro sound
      rcases sound.cached truthy with ⟨other, received, lifetime, grant, expires⟩
      refine .reused truthy grant ?_
      rw [← expires]
      linarith
    · exact ⟨.of_same rfl, .inl rfl⟩
  · exact ⟨.of_same rfl, .inl rfl⟩

/-- A granted token is kept with the time at which it expires. -/
theorem receiveToken_steps (grants : client.GrantsTime) (host : Host) {data : Json} {tick : ℕ}
    (answered : client.post (.tenantAccessToken client.appId client.appSecret) tick = .ok data)
    (asked : .posted call (.tenantAccessToken client.appId client.appSecret) ∈
      origin.state.history) :
    (Coro.sync (receiveToken host call data)).Steps client.LarkStep (fun result world =>
      ∀ token, result = .ok token → Holds call token world.state.history) origin := by
  apply Coro.steps_sync
  intro world moved
  have asked' := history_grows moved asked
  rcases given : getField data "tenant_access_token" .null with exc | token
  · have raised : receiveToken host call data world = (.error exc, world) := by
      rw [receiveToken, given]
      rfl
    rw [raised]
    exact ⟨.of_same rfl, fun _ same => by cases same⟩
  · rcases getField_ok given "expire" (.int 7200) with ⟨expire, timed⟩
    rcases grants tick data expire answered timed with ⟨lifetime, lasts⟩
    have received : receiveToken host call data world = (.ok token, ⟨world.tick + 1,
        ⟨token, host.time world.tick + lifetime,
          .granted call token (host.time world.tick) lifetime :: world.state.history⟩⟩) := by
      simp only [receiveToken, given, timed, Action.bind_apply, ofExcept_apply, Timed.modify_apply,
        Host.readTime_apply, lasts]
      rfl
    rw [received]
    refine ⟨⟨List.subset_cons_self _ _, ?_⟩, ?_⟩
    · intro sound
      exact ⟨⟨.granted asked', sound.vouched⟩,
        fun _ => ⟨call, _, lifetime, List.mem_cons_self, rfl⟩⟩
    · rintro _ ⟨⟩
      exact .granted List.mem_cons_self

/-- Whatever the API answers, there is a token that the call holds, or none. -/
theorem getTenantAccessToken_steps (grants : client.GrantsTime) (host : Host) (call : ℕ)
    (origin : LarkWorld) :
    (client.getTenantAccessToken host call).Steps client.LarkStep (fun result world =>
      ∃ token, result = .ok token ∧ (token.truthy = true → Holds call token world.state.history))
      origin := by
  unfold getTenantAccessToken
  apply Coro.steps_bind (cachedToken_steps host client call origin)
  · rintro (_ | token) world - found
    · dsimp only
      split
      · exact ⟨.null, rfl, fun truthy => by cases truthy⟩
      · rename_i configured
        rw [not_or] at configured
        refine @Coro.steps_tryCatch _ _ _ _ (fun result world => ∀ token, result = .ok token →
          Holds call token world.state.history) _ _ _ _ ?_ ?_ ?_
        · apply Coro.steps_bind (send_steps fun _ _ => .asked configured.1 configured.2)
          · rintro data world' - ⟨asked, tick, answered⟩
            exact receiveToken_steps grants host answered.symm asked
          · exact fun _ _ _ _ same => by cases same
        · exact fun token _ holds => ⟨token, rfl, fun _ => holds token rfl⟩
        · exact fun _ _ _ _ => ⟨.null, rfl, fun truthy => by cases truthy⟩
    · rcases found with none | ⟨_, ⟨⟩, holds⟩
      · cases none
      · exact ⟨token, rfl, fun _ => holds⟩
  · rintro _ _ (⟨⟨⟩⟩ | ⟨_, ⟨⟩, -⟩)

/-- A message that the call may post is posted, and no error gets out. -/
theorem deliver_steps {request : LarkRequest} (bears : request.bearer = some token)
    (truthy : token.truthy = true) (holds : Holds call token origin.state.history) :
    (client.deliver call request).Steps client.LarkStep (fun result _ => ∃ sent, result = .ok sent)
      origin := by
  have sending : (client.send call request >>= fun _ => pure true :
      Coro Exc LarkWorld Bool).Steps client.LarkStep (fun _ _ => True) origin := by
    apply Coro.steps_bind (send_steps fun _ grows => .sent bears truthy (holds.grows grows))
    · exact fun _ _ _ _ => trivial
    · exact fun _ _ _ => trivial
  apply Coro.steps_tryCatch sending
  · exact fun sent _ _ => ⟨sent, rfl⟩
  · exact fun _ _ _ _ => ⟨false, rfl⟩

theorem task_steps (grants : client.GrantsTime) (host : Host) (number : ℕ) (call : LarkCall)
    (origin : LarkWorld) :
    (client.task host number call).Steps client.LarkStep (fun result _ => ∃ sent, result = .ok sent)
      origin := by
  cases call with
  | reply messageId text =>
      apply Coro.steps_bind (getTenantAccessToken_steps grants host number origin)
      · rintro token world - ⟨_, ⟨⟩, holds⟩
        split
        · rename_i truthy
          exact deliver_steps rfl truthy (holds truthy)
        · exact ⟨false, rfl⟩
      · rintro _ _ ⟨_, ⟨⟩, -⟩
  | approvalCard chatId title message cardPayload =>
      apply Coro.steps_bind (getTenantAccessToken_steps grants host number origin)
      · rintro token world - ⟨_, ⟨⟩, holds⟩
        split
        · rename_i truthy
          split
          · exact ⟨false, rfl⟩
          · exact deliver_steps rfl truthy (holds truthy)
        · exact ⟨false, rfl⟩
      · rintro _ _ ⟨_, ⟨⟩, -⟩

/-- Whatever is called and in whatever order, what is posted is vouched for, and no call raises. -/
theorem posts_vouched (grants : client.GrantsTime) (host : Host) (calls : ℕ → LarkCall)
    (schedule : List ℕ) :
    client.Sound (client.serve host calls schedule).state.state ∧
      ∀ call result, (client.serve host calls schedule).tasks call = .done result →
        ∃ sent, result = .ok sent := by
  have start : client.Sound LarkState.initial := ⟨trivial, fun truthy => by cases truthy⟩
  have steps : Pool.Stepping client.LarkStep (fun result _ => ∃ sent, result = .ok sent)
      ⟨⟨0, LarkState.initial⟩, fun i => client.task host i (calls i)⟩ :=
    Pool.stepping_of_tasks fun i => task_steps grants host i (calls i) ⟨0, LarkState.initial⟩
  rcases steps.exec schedule with ⟨stepping, moved⟩
  refine ⟨sound_of_moved moved start, ?_⟩
  intro call result ended
  rcases stepping call with ⟨origin, -, ends⟩
  rw [serve] at ended
  rw [ended] at ends
  cases result <;> exact ends

end LarkClient

namespace Sample

/-- An API that grants a token and takes every message. -/
def larkClient : LarkClient where
  appId := py "cli_agentos"
  appSecret := py "secret"
  post := fun _ _ =>
    .ok (.obj [(py "tenant_access_token", .str (py "t-agentos")), (py "expire", .int 7200)])

theorem larkClient_grantsTime : larkClient.GrantsTime := by
  rintro tick data expire ⟨⟩ timed
  have same : expire = .int 7200 := by
    rw [getField] at timed
    exact (Except.ok.inj timed).symm
  have small : ¬ exceedsFloat 7200 = true := by decide +kernel
  exact ⟨7200, by rw [same, LarkClient.seconds, if_neg small]; rfl⟩

def larkCalls : ℕ → LarkCall
  | 0 => .reply (py "om_1") (py "Hello")
  | _ => .approvalCard (py "oc_1") (py "Approval") (py "Please decide") .null

/-- The card reuses the token that the reply was granted. -/
theorem token_reused :
    larkClient.Sound (larkClient.serve steadyHost larkCalls [0, 0, 0, 1, 0, 1]).state.state ∧
      (larkClient.serve steadyHost larkCalls
        [0, 0, 0, 1, 0, 1]).state.state.history.length = 5 :=
  ⟨(LarkClient.posts_vouched larkClient_grantsTime steadyHost larkCalls _).1, by decide +kernel⟩

end Sample

end AgentOS
