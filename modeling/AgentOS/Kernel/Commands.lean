import AgentOS.Kernel.Accounting
import AgentOS.Kernel.Refusal
import AgentOS.Policies.CommandLines

/-!
# Commands in messages

A message is checked against the command policy when it looks like a command. The test reads
the words behind the first one: two dashes or a sign of a path, a pipe or a redirection count
wherever they stand, but a single dash counts only at the beginning of the first argument, and
not when it is all that follows together with one letter. A command with such a flag elsewhere
is taken for a message.
-/

namespace AgentOS

open Python Cooperative

/-- A dash with one letter, which may be any character, or two dashes with a word. -/
def IsFlag (token : Str) : Prop :=
  (∃ letter, token = [0x2D, letter]) ∨ ∃ word, word ≠ [] ∧ token = 0x2D :: 0x2D :: word

/-- The signs of paths, pipes and redirections. -/
def commandSigns : List Str := [py "/", py "|", py ">", py "<", py "&"]

/-- A word that counts wherever it stands. -/
def IsStrong (token : Str) : Prop :=
  contains token (py "--") = true ∨ ∃ sign ∈ commandSigns, contains token sign = true

/-- The first argument begins with a dash, and it is not a flag of one letter on its own. -/
def BeginsWithFlags (later : List Str) : Prop :=
  ∃ token more, later = token :: more ∧ startswith token (py "-") = true ∧
    (more ≠ [] ∨ 3 ≤ token.length)

/-- What makes a message look like a command, in its words. -/
def Noticed (first : Str) (later : List Str) : Prop :=
  startswith first (py "/") = true ∨ startswith first (py "./") = true ∨
    (∃ token ∈ later, IsStrong token) ∨ BeginsWithFlags later

/-! ### The words that are noticed -/

section Words

variable {text first : Str} {later : List Str}

theorem startswith_append_of_ne_nil {token : Str} (nonempty : token ≠ []) (rest : Str)
    (c : CodePoint) : startswith (token ++ rest) [c] = startswith token [c] := by
  rcases token with _ | ⟨d, token⟩
  · exact absurd rfl nonempty
  · simp [startswith, List.isPrefixOf]

/-- The rest begins with a dash and has three characters. -/
theorem beginsWithFlags_iff (words_eq : split text = later) :
    startswith (strip text) (py "-") = true ∧ 3 ≤ (strip text).length ↔ BeginsWithFlags later := by
  have dash : py "-" = [0x2D] := by decide
  rw [dash]
  rcases later with _ | ⟨token, more⟩
  · rw [strip_of_split_nil words_eq]
    refine iff_of_false (by simp) ?_
    rintro ⟨_, _, ⟨⟩, -⟩
  · rcases strip_of_split_cons words_eq with ⟨rest, shape, words, ends, nonempty, -, alone⟩
    rw [shape, startswith_append_of_ne_nil nonempty]
    have short : 3 ≤ (token ++ rest).length ↔ more ≠ [] ∨ 3 ≤ token.length := by
      rw [List.length_append]
      have letters := List.length_pos_iff.mpr nonempty
      rcases more with _ | ⟨next, others⟩
      · simp [alone rfl]
      · refine iff_of_true ?_ (.inl (List.cons_ne_nil _ _))
        have two : 2 ≤ rest.length := by
          rcases rest with _ | ⟨gap, _ | ⟨c, rest⟩⟩
          · cases words
          · have blank : split ([] ++ [gap]) = [] := split_append_spaces (by simpa using ends) []
            cases words.symm.trans blank
          · simp
        omega
    rw [short]
    constructor
    · rintro ⟨begins, long⟩
      exact ⟨token, more, rfl, begins, long⟩
    · rintro ⟨_, _, ⟨⟩, begins, long⟩
      exact ⟨begins, long⟩

/-- Signs without white space are found in a text when a word holds one of them. -/
theorem any_contains_iff {signs : List Str} (areWords : ∀ sign ∈ signs, IsWord sign) (text : Str) :
    signs.any (contains text) = true ↔
      ∃ token ∈ split text, ∃ sign ∈ signs, contains token sign = true := by
  rw [List.any_eq_true]
  constructor
  · rintro ⟨sign, mem, found⟩
    have isWord := areWords sign mem
    rcases (contains_iff_words isWord.nonempty isWord.solid text).mp found with
      ⟨token, word, holds⟩
    exact ⟨token, word, sign, mem, holds⟩
  · rintro ⟨token, word, sign, mem, holds⟩
    have isWord := areWords sign mem
    exact ⟨sign, mem, (contains_iff_words isWord.nonempty isWord.solid text).mpr
      ⟨token, word, holds⟩⟩

/-- Two dashes or a sign are found behind the first word when one of the words holds them. -/
theorem exists_isStrong_iff (words_eq : split text = later) :
    (∃ token ∈ later, IsStrong token) ↔
      contains text (py "--") = true ∨ commandSigns.any (contains text) = true := by
  have twoDashes : IsWord (py "--") := isWord_of_all (by decide) (by decide)
  have signs : ∀ sign ∈ commandSigns, IsWord sign := by
    have parts : ∀ sign ∈ commandSigns, sign ≠ [] ∧ (sign.all fun c => !isSpace c) = true := by
      decide
    exact fun sign mem => isWord_of_all (parts sign mem).1 (parts sign mem).2
  rw [contains_iff_words twoDashes.nonempty twoDashes.solid, any_contains_iff signs, words_eq]
  simp only [IsStrong, and_or_left, exists_or]

theorem ne_nil_of_marked (marked : contains text (py "--") = true ∨
    startswith text (py "-") = true ∨ commandSigns.any (contains text) = true) : text ≠ [] := by
  rintro rfl
  revert marked
  decide

/-- A text with a word in it is not blank. -/
theorem not_blank_of_words (words_eq : split text = first :: later) :
    ¬ (strip text = [] ∨ strip (strip text) = []) := by
  have words : split (strip (strip text)) = first :: later := by
    rw [split_strip, split_strip, words_eq]
  rintro (none | none)
  · rw [none] at words
    cases words
  · rw [none] at words
    cases words

/-- A word holds no blank. -/
theorem not_contains_blank (solid : ∀ c ∈ first, isSpace c = false) :
    contains first (py " ") = false := by
  rw [Bool.eq_false_iff, ne_eq, contains_iff]
  intro within
  have blank := solid 0x20 (within.subset (by decide))
  revert blank
  decide

/-- The test of the kernel, read from the words of the message. -/
theorem looksLikeCommand_iff (words_eq : split text = first :: later) (long : 2 ≤ first.length)
    (small : islower first = true) (other : first ≠ py "execute_governed_write") :
    looksLikeCommand (strip text) = true ↔ Noticed first later := by
  rcases strip_of_split_cons words_eq with ⟨rest, shape, words, -, nonempty, solid, -⟩
  have head : (split (strip text)).headD [] = first := by
    rw [split_strip, words_eq, List.headD_cons]
  have behind : (strip text).drop first.length = rest := by
    rw [shape, List.drop_left]
  have oneWord := not_contains_blank solid
  unfold looksLikeCommand
  rw [if_neg (not_blank_of_words words_eq)]
  dsimp only
  rw [head, behind, if_neg other]
  by_cases path : startswith first (py "/") = true ∨ startswith first (py "./") = true
  · rw [if_pos path]
    refine iff_of_true rfl ?_
    rcases path with path | path
    · exact .inl path
    · exact .inr (.inl path)
  rw [if_neg path, if_neg (not_not.mpr ⟨nonempty, long, by simp [oneWord], small⟩)]
  rw [not_or] at path
  have marks := exists_isStrong_iff ((split_strip rest).trans words)
  have flags := beginsWithFlags_iff words
  rw [Noticed, marks, ← flags]
  have marked := @ne_nil_of_marked (strip rest)
  rw [or_iff_right path.1, or_iff_right path.2]
  split
  · rename_i strong
    refine iff_of_true rfl ?_
    rcases strong.2 with dashes | begins
    · exact .inl (.inl dashes)
    · exact .inr begins
  · rename_i weak
    split
    · rename_i sign
      exact iff_of_true rfl (.inl (.inr sign.2))
    · rename_i plain
      refine iff_of_false Bool.false_ne_true ?_
      rintro ((dashes | sign) | begins)
      · exact weak ⟨marked (.inl dashes), .inl dashes⟩
      · exact plain ⟨marked (.inr (.inr sign)), sign⟩
      · exact weak ⟨marked (.inr (.inl begins.1)), .inr begins⟩

end Words

/-- A word outside the allowlist with a flag behind it, which is no governed write. -/
structure FlaggedCommand (allowed : List Str) (text first : Str) (later : List Str) : Prop where
  words : split text = first :: later
  long : 2 ≤ first.length
  small : islower first = true
  other : first ≠ py "execute_governed_write"
  unlisted : first ∉ allowed
  flagged : ∃ token ∈ later, IsFlag token

/-- A message whose first word is another one asks for no governed write. -/
theorem FlaggedCommand.intentOf_ne {allowed later : List Str} {text first : Str}
    (command : FlaggedCommand allowed text first later) (domain nonce data : Str) :
    intentOf text ≠ .governedWrite domain nonce data := by
  intro intent
  have started := AgentOSKernel.startswith_of_governedWrite intent
  have name : IsWord (py "execute_governed_write") := isWord_of_all (by decide) (by decide)
  have shape : py "execute_governed_write " = py "execute_governed_write" ++ [0x20] := by decide
  simp only [startswith, List.isPrefixOf_iff_prefix] at started
  rcases started with ⟨more, stripped⟩
  have words := command.words
  rw [← split_strip, ← stripped, shape, List.append_assoc, List.singleton_append,
    split_cons_word name.nonempty name.solid (by decide)] at words
  exact command.other (List.cons.inj words).1.symm

namespace AgentOSKernel

variable {ν : Type} (host : Host) (rdf : RdfLib) (kernel : AgentOSKernel ν)

/-- The call replies that the message is blocked. -/
def Blocks (message : ChannelMessage) (world : KernelWorld ν) : Prop :=
  ∃ response final, (kernel.wakeUp host rdf message).run world = (.ok response, final) ∧
    response.status = .blocked

/-- The firewall and the breaker let the message through, and the session is alive. -/
structure ReachesPolicy (policy : AutonomyPolicy) (message : ChannelMessage)
    (world : KernelWorld ν) : Prop where
  configured : kernel.autonomyPolicy = some policy
  scanned : ∃ report, kernel.firewall.scan (strip message.text) (py "user_prompt") = .ok report
  closed : kernel.circuitBreaker.opensAt (host.time world.tick) (strip message.text)
    world.state.breaker = false
  alive : host.time (kernel.circuitBreaker.lookedUp host (strip message.text)
    (world.part KernelState.breaker)).tick - policy.sessionStart ≤ policy.maxDurationSeconds

variable {host rdf kernel} {message : ChannelMessage}

/-- A violation of the policy is answered at once, and nothing else is answered as `blocked`. -/
theorem replyException_blocked_iff (host : Host) (kernel : AgentOSKernel ν)
    (message : ChannelMessage) (sessionId : ℕ) (exc : Exc) (world : KernelWorld ν) :
    (∃ response final, kernel.replyException host message sessionId exc world =
        (.ok response, final) ∧ response.status = .blocked) ↔ exc.cls = .policyViolationError := by
  have failure : ∀ {start}, ¬ ∃ response final,
      kernel.replyFailure host message sessionId start exc world = (.ok response, final) ∧
        response.status = .blocked := by
    rintro start ⟨response, final, replied, blocked⟩
    rcases Action.bind_eq_ok_iff.mp replied with ⟨_, _, _, last⟩
    cases last
    cases blocked
  rcases exc with ⟨cls, text⟩
  cases cls
  case policyViolationError =>
    exact iff_of_true ⟨_, _, rfl, rfl⟩ rfl
  case circuitBreakerOpenError | securityInterceptError | billingFuseTrippedError =>
    refine iff_of_false ?_ nofun
    rintro ⟨response, final, replied, blocked⟩
    cases replied
    cases blocked
  all_goals exact iff_of_false failure nofun

/-- A call is blocked exactly when a violation of the policy leaves its `try` block. -/
theorem blocks_iff (host : Host) (rdf : RdfLib) (kernel : AgentOSKernel ν)
    (message : ChannelMessage) (world : KernelWorld ν) :
    Blocks host rdf kernel message world ↔ ∃ exc final,
      (kernel.dispatch host rdf message (world.state.sessionCount + 1)).run (entered world) =
        (.error exc, final) ∧ exc.cls = .policyViolationError := by
  rw [Blocks, wakeUp_run]
  rcases dispatched : (kernel.dispatch host rdf message (world.state.sessionCount + 1)).run
    (entered world) with ⟨exc | response, middle⟩
  · dsimp only
    rw [replyException_blocked_iff]
    constructor
    · exact fun violation => ⟨exc, middle, rfl, violation⟩
    · rintro ⟨_, _, ⟨⟩, violation⟩
      exact violation
  · have ok := (wakeUp_ok_iff.mpr dispatched).2
    constructor
    · rintro ⟨_, _, ⟨⟩, blocked⟩
      cases ok.symm.trans blocked
    · rintro ⟨_, _, ⟨⟩, -⟩

/-- A command outside the allowlist violates the policy. -/
theorem preDispatch_of_command {policy : AutonomyPolicy} {world : KernelWorld ν}
    (reaches : ReachesPolicy host kernel policy message world)
    (command : looksLikeCommand (strip message.text) = true) {exc : Exc}
    (refused : policy.checkCommand host (strip message.text) = .error exc) :
    ∃ final, kernel.preDispatch host message world = (.error exc, final) := by
  rcases reaches.scanned with ⟨report, scanned⟩
  have alive : ¬ (policy.maxDurationSeconds : ℚ) < host.time (Timed.setPart
      KernelState.setBreaker (kernel.circuitBreaker.lookedUp host (strip message.text)
        (world.part KernelState.breaker)) world).tick - policy.sessionStart :=
    not_lt.mpr reaches.alive
  unfold preDispatch enforcePolicy AutonomyPolicy.checkSessionAlive
  simp only [Action.bind_apply, ofExcept_apply, scanned, isOpen_apply, raiseIf_apply,
    reaches.closed, reaches.configured, Bool.false_eq_true, if_false, Host.readTime_apply,
    alive, command, if_true, refused]
  exact ⟨_, rfl⟩

theorem preDispatch_of_message {policy : AutonomyPolicy} {world : KernelWorld ν}
    (reaches : ReachesPolicy host kernel policy message world)
    (talk : ¬ looksLikeCommand (strip message.text) = true) :
    kernel.preDispatch host message world = (.ok (), hooksWorld host kernel message world) := by
  refine preDispatch_eq_ok_iff.mpr ⟨⟨reaches.scanned, reaches.closed, ?_⟩, rfl⟩
  intro other same
  cases reaches.configured.symm.trans same
  exact ⟨reaches.alive, fun command => absurd command talk⟩

/-- Without a governed write no violation of the policy leaves the processing. -/
theorem processMessage_lawful (raises : ∀ gate, kernel.writeGate = some gate → gate.RaisesFailures)
    (other : ∀ domain nonce data, intentOf message.text ≠ .governedWrite domain nonce data)
    {world final : KernelWorld ν} {exc : Exc}
    (raised : (kernel.processMessage host rdf message).run world = (.error exc, final)) :
    exc.cls ≠ .policyViolationError := by
  rcases intent : intentOf message.text with _ | _ | ⟨domain, nonce, data⟩ | _ | _ | _
  case schema =>
    rcases wired : kernel.writeGate with _ | gate
    · simp only [processMessage, intent, wired] at raised
      cases raised
    · rw [processMessage_schema wired intent, Coro.run_done] at raised
      have failure := schemaResponse_failures (raises gate wired) (congrArg Prod.fst raised)
      intro violation
      rw [Exc.IsFailure, violation] at failure
      cases failure
  case governedWrite => exact absurd intent (other domain nonce data)
  all_goals
    simp only [processMessage, intent] at raised
    cases raised

theorem billMessage_exhausts {world final : KernelWorld ν} {exc : Exc}
    (raised : kernel.billMessage host message world = (.error exc, final)) :
    exc.cls = .billingFuseTrippedError := by
  by_cases billed : isBilled (strip message.text) = true
  · rcases billMessage_cases host kernel billed world with
      ⟨-, last, charged⟩ | ⟨-, other, last, cls, charged⟩
    · cases charged.symm.trans raised
    · cases charged.symm.trans raised
      exact cls
  · rw [billMessage, if_neg billed] at raised
    cases raised

/-- A message that does not look like a command is not blocked. -/
theorem not_blocks_of_message
    (raises : ∀ gate, kernel.writeGate = some gate → gate.RaisesFailures)
    (other : ∀ domain nonce data, intentOf message.text ≠ .governedWrite domain nonce data)
    {policy : AutonomyPolicy} {world : KernelWorld ν}
    (reaches : ReachesPolicy host kernel policy message (entered world))
    (talk : ¬ looksLikeCommand (strip message.text) = true) :
    ¬ Blocks host rdf kernel message world := by
  rw [blocks_iff, dispatch_run_of_admitted (preDispatch_of_message reaches talk)]
  rintro ⟨exc, final, ended, violation⟩
  rcases processed : (kernel.processMessage host rdf message).run
    (hooksWorld host kernel message (entered world)) with ⟨other' | text, middle⟩ <;>
    rw [processed] at ended
  · cases ended
    exact processMessage_lawful raises other processed violation
  · dsimp only at ended
    rcases charged : kernel.billMessage host message middle with ⟨other' | ⟨⟩, last⟩ <;>
      rw [charged] at ended
    · cases ended
      cases (billMessage_exhausts charged).symm.trans violation
    · cases ended

/--
A flagged command outside the allowlist is blocked exactly when its words are noticed, which
depends on where the flag stands and how long it is.
-/
theorem flagged_blocked_iff
    (raises : ∀ gate, kernel.writeGate = some gate → gate.RaisesFailures)
    {policy : AutonomyPolicy} {world : KernelWorld ν} {first : Str} {later : List Str}
    (allowlist : policy.commands.mode = py "allowlist")
    (reaches : ReachesPolicy host kernel policy message (entered world))
    (command : FlaggedCommand policy.commands.allowed message.text first later) :
    Blocks host rdf kernel message world ↔ Noticed first later := by
  rw [← looksLikeCommand_iff command.words command.long command.small command.other]
  constructor
  · intro blocks
    by_contra talk
    exact not_blocks_of_message raises command.intentOf_ne reaches talk blocks
  · intro noticed
    have program : AutonomyPolicy.program (strip message.text) = first := by
      rw [AutonomyPolicy.program, split_strip, split_strip, command.words, List.headD_cons]
    obtain ⟨exc, refused, violation⟩ : ∃ exc, policy.checkCommand host (strip message.text) =
        .error exc ∧ exc.cls = .policyViolationError := by
      rw [AutonomyPolicy.checkCommand, if_pos allowlist, program, if_neg command.unlisted]
      exact ⟨_, rfl, rfl⟩
    rcases preDispatch_of_command reaches noticed refused with ⟨final, hooks⟩
    rw [blocks_iff, dispatch_run_of_refused hooks]
    exact ⟨exc, final, rfl, violation⟩

end AgentOSKernel

namespace Sample

def listingKernel : AgentOSKernel Unit := { kernel with autonomyPolicy := some listingPolicy }

def commandMessage (text : Str) : ChannelMessage := { message [] with text }

theorem listing_raisesFailures (wired : WriteGate) (same : listingKernel.writeGate = some wired) :
    wired.RaisesFailures :=
  gate_raisesFailures wired same

theorem listing_reaches (text : Str) :
    AgentOSKernel.ReachesPolicy steadyHost listingKernel listingPolicy (commandMessage text)
      (AgentOSKernel.entered validatedWorld) := by
  refine ⟨rfl, ⟨_, rfl⟩, rfl, ?_⟩
  norm_num [steadyHost, host, listingPolicy]

/-- In front of another argument the flag is noticed. -/
theorem flag_before_file_blocked :
    AgentOSKernel.Blocks steadyHost rdf listingKernel (commandMessage (py "rm -r backup"))
      validatedWorld := by
  have noticed : Noticed (py "rm") [py "-r", py "backup"] :=
    .inr (.inr (.inr ⟨_, _, rfl, by decide, .inl (by decide)⟩))
  have command : FlaggedCommand listingPolicy.commands.allowed
      (commandMessage (py "rm -r backup")).text (py "rm") [py "-r", py "backup"] := by
    refine ⟨by decide, by decide, by decide, by decide, by decide, py "-r", by decide, ?_⟩
    exact .inl ⟨_, rfl⟩
  exact (AgentOSKernel.flagged_blocked_iff listing_raisesFailures rfl (listing_reaches _)
    command).mpr noticed

/-- Behind the argument the flag is overlooked, and the command is answered as a message. -/
theorem flag_behind_file_overlooked :
    ¬ ∀ (host : Host) (rdf : RdfLib) (kernel : AgentOSKernel Unit) (policy : AutonomyPolicy)
      (message : ChannelMessage) (world : KernelWorld Unit) (first : Str) (later : List Str),
      (∀ gate, kernel.writeGate = some gate → gate.RaisesFailures) →
      policy.commands.mode = py "allowlist" →
      AgentOSKernel.ReachesPolicy host kernel policy message (AgentOSKernel.entered world) →
      FlaggedCommand policy.commands.allowed message.text first later →
      AgentOSKernel.Blocks host rdf kernel message world := by
  intro claim
  have command : FlaggedCommand listingPolicy.commands.allowed
      (commandMessage (py "rm backup -r")).text (py "rm") [py "backup", py "-r"] := by
    refine ⟨by decide, by decide, by decide, by decide, by decide, py "-r", by decide, ?_⟩
    exact .inl ⟨_, rfl⟩
  rcases claim steadyHost rdf listingKernel listingPolicy _ validatedWorld _ _
    listing_raisesFailures rfl (listing_reaches _) command with ⟨response, final, returned, blocked⟩
  have answered : ((listingKernel.wakeUp steadyHost rdf (commandMessage (py "rm backup -r"))).run
      validatedWorld).1.map ChannelResponse.status = .ok .ok := by
    decide +kernel
  rw [returned] at answered
  cases blocked.symm.trans (Except.ok.inj answered)

end Sample

end AgentOS
