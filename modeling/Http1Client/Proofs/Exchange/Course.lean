import Http1Client.Client
import Http1Client.Proofs.Exchange.Room

/-!
# The course of an exchange

An exchange that ends has gone through its stages in their order, as far as it got, and then
to one of the last two; it has reported once, and shut its connection down before, if it had
one. Every failure on the way is covered: each part of a conversation says how far it gets and
what it leaves in the list of moments (`exists_receive`, `send_sent`, `hold_held`), and what
concludes it adds the last stage and the report (`Held.proper`).

One way out is left. Where there is no room for the body the exchange breaks off, and nothing
of that is done: no last stage is reached, nothing is reported, the connection is not shut down,
and the promise finds its fulfiller gone (`perform_proper`). That takes a limit above all the
memory there is.

The caller's store is any, so its scope may be closed; so is the state of the promise, apart
from the fulfiller, which the exchange holds.
-/

namespace Http1Client

/-! ## What moments tell -/

namespace Moment

/-- The move from one stage to another. -/
def move? : Moment → Option (Stage × Stage)
  | .moved source target => some (source, target)
  | _ => none

/-- The outcome that is reported. -/
def outcome? : Moment → Option (Outcome Received)
  | .reported outcome => some outcome
  | _ => none

/-- A use of an open connection: something written or read, or its end. -/
def usesConnection : Moment → Bool
  | .wrote _ | .read _ | .shutDown => true
  | _ => false

end Moment

/-- The moves that moments tell of. -/
def moves (moments : List Moment) : List (Stage × Stage) := moments.filterMap Moment.move?

/-- The outcomes that moments report. -/
def outcomes (moments : List Moment) : List (Outcome Received) :=
  moments.filterMap Moment.outcome?

/-- The moves along a path. -/
def legs : List Stage → List (Stage × Stage)
  | a :: b :: rest => (a, b) :: legs (b :: rest)
  | _ => []

theorem legs_concat {path : List Stage} {last next : Stage} (h : path.getLast? = some last) :
    legs (path ++ [next]) = legs path ++ [(last, next)] := by
  fun_induction legs path with
  | case1 a b rest ih => exact congrArg ((a, b) :: ·) (ih h)
  | case2 path hshort =>
    match path, hshort with
    | [a], _ => cases h; rfl
    | a :: b :: rest, hshort => exact absurd rfl (hshort a b rest)

/-- The stages in their order, up to the one `n` after connecting. -/
def route (n : Nat) : List Stage :=
  [.idle, .connecting] ++ [.connected, .sending, .awaitingResponse].take n

section Moments

variable {moments later : List Moment}

@[simp]
theorem moves_append (moments later : List Moment) :
    moves (moments ++ later) = moves moments ++ moves later := List.filterMap_append

@[simp]
theorem outcomes_append (moments later : List Moment) :
    outcomes (moments ++ later) = outcomes moments ++ outcomes later := List.filterMap_append

/-- Moments that belong to one stage: no move, no report, and the connection stays. -/
def Within (moments : List Moment) : Prop :=
  ∀ m ∈ moments, m.move? = none ∧ m.outcome? = none ∧ m ≠ .shutDown

theorem Within.moves_eq (h : Within moments) : moves moments = [] :=
  List.filterMap_eq_nil_iff.2 fun m hm => (h m hm).1

theorem Within.outcomes_eq (h : Within moments) : outcomes moments = [] :=
  List.filterMap_eq_nil_iff.2 fun m hm => (h m hm).2.1

theorem Within.shutDown_not_mem (h : Within moments) : Moment.shutDown ∉ moments :=
  fun hmem => (h _ hmem).2.2 rfl

theorem within_singleton {m : Moment} :
    Within [m] ↔ m.move? = none ∧ m.outcome? = none ∧ m ≠ .shutDown := List.forall_mem_singleton

theorem within_wrote (data : Bytes) : Within [.wrote data] :=
  within_singleton.2 ⟨rfl, rfl, nofun⟩

theorem within_dialled (tried : List Endpoint) : Within (tried.map .dialled) := by
  intro m hm
  obtain ⟨endpoint, -, rfl⟩ := List.mem_map.1 hm
  exact ⟨rfl, rfl, nofun⟩

theorem within_warned (warnings : List Warning) : Within (warnings.map .warned) := by
  intro m hm
  obtain ⟨warning, -, rfl⟩ := List.mem_map.1 hm
  exact ⟨rfl, rfl, nofun⟩

end Moments

/-- What is taken in while a response is waited for. -/
def Moment.isIntake : Moment → Bool
  | .read _ | .skipped _ => true
  | _ => false

/-- Nothing is done but to take in a response. -/
def Intaken (moments : List Moment) : Prop := ∀ m ∈ moments, m.isIntake = true

section Intaken

variable {moments later : List Moment}

/-- Taking in a response belongs to one stage. -/
theorem Intaken.within (h : Intaken moments) : Within moments := by
  intro m hm
  have hintake := h m hm
  cases m with
  | read data => exact ⟨rfl, rfl, nofun⟩
  | skipped code => exact ⟨rfl, rfl, nofun⟩
  | _ => cases hintake

theorem intaken_skipped (codes : List Nat) : Intaken (codes.map .skipped) :=
  List.forall_mem_map.2 fun _ _ => rfl

theorem intaken_read (codes : List Nat) (data : Bytes) (h : Intaken later) :
    Intaken (codes.map .skipped ++ .read data :: later) :=
  List.forall_mem_append.2 ⟨intaken_skipped codes, List.forall_mem_cons.2 ⟨rfl, h⟩⟩

theorem Intake.intaken_readAll (method : Method) (ending : Option Stop) (i : Intake)
    (reads : List Bytes) : Intaken (readAll method ending i reads).1 := by
  induction reads generalizing i with
  | nil =>
    rw [readAll]
    obtain ⟨codes, settled⟩ := settle method i
    cases settled <;> exact intaken_skipped codes
  | cons data later ih =>
    rw [readAll]
    obtain ⟨codes, settled⟩ := settle method i
    cases settled with
    | hungry rest => exact intaken_read codes data (ih (rest.append data))
    | complete rest => exact intaken_skipped codes
    | failed failure => exact intaken_skipped codes

/-- So is what comes before reading breaks off. -/
theorem Intake.intaken_overflow {method : Method} {i : Intake} {reads : List Bytes}
    (h : overflow? method i reads = some moments) : Intaken moments := by
  induction reads generalizing i moments with
  | nil =>
    rw [overflow?_nil] at h
    split at h <;> cases h
    exact intaken_skipped _
  | cons data later ih =>
    rw [overflow?_cons] at h
    split at h
    · cases h
      exact intaken_skipped _
    · split at h
      · obtain ⟨moments', hlater, rfl⟩ := Option.map_eq_some_iff.1 h
        exact intaken_read _ data (ih hlater)
      · cases h

end Intaken

/-! ## How far a conversation gets -/

/-- Moments that go along a path, with nothing reported and the connection as it was. -/
structure Along (path : List Stage) (moments : List Moment) : Prop where
  moves_eq : moves moments = legs path
  unreported : outcomes moments = []
  unshut : Moment.shutDown ∉ moments

theorem along_start : Along [.idle] [] := ⟨rfl, rfl, nofun⟩

/-- A move goes to the next stage, and moments within it no further. -/
theorem Along.advance {path : List Stage} {last next : Stage} {moments later : List Moment}
    (h : Along path moments) (hlast : path.getLast? = some last) (hlater : Within later) :
    Along (path ++ [next]) (moments ++ .moved last next :: later) where
  moves_eq := by
    rw [legs_concat hlast, ← h.moves_eq, moves_append]
    exact congrArg (moves moments ++ (last, next) :: ·) hlater.moves_eq
  unreported := by
    rw [outcomes_append, h.unreported]
    exact hlater.outcomes_eq
  unshut hmem := by
    rcases List.mem_append.1 hmem with hmem | hmem
    · exact h.unshut hmem
    · exact hlater.shutDown_not_mem ((List.mem_cons.1 hmem).resolve_left nofun)

/-- How a conversation whose connection is open went: to one of two stages, the later of which
it needs to get a response or to break off. -/
structure Conversation.Sent (c : Conversation) (earlier : List Moment) (n : Nat) : Prop where
  along : Along (route n) (earlier ++ c.moments)
  stage : (route n).getLast? = some c.stage
  reached : n = 2 ∨ n = 3
  answered : ∀ message, c.result = .done (.ok message) → n = 3
  broken : c.result = .broken → n = 3

namespace Conversation

/-- However waiting for a response ends, nothing else is done. -/
theorem exists_receive (config : Config) (request : Request) (peer : Peer) :
    ∃ moments result, receive config request peer =
      ⟨.moved .sending .awaitingResponse :: moments, .awaitingResponse, result⟩ ∧
        Intaken moments := by
  unfold receive
  dsimp only
  cases hover : Intake.overflow? request.method (.start config.maxContentLength) peer.reads with
  | some moments => exact ⟨moments, .broken, rfl, Intake.intaken_overflow hover⟩
  | none => exact ⟨_, _, rfl, Intake.intaken_readAll _ _ _ _⟩

/-- Sending starts once there is a connection. -/
theorem send_sent (config : Config) (request : Request) (peer : Peer) {earlier : List Moment}
    (h : Along (route 1) earlier) : ∃ n, (send config request peer).Sent earlier n := by
  unfold send
  obtain ⟨taken, stop⟩ := peer.write request.encode
  have hsending : Along (route 2) (earlier ++ [.moved .connected .sending, .wrote taken]) :=
    h.advance rfl (within_wrote taken)
  cases stop with
  | some stop => cases stop <;> exact ⟨2, hsending, rfl, .inl rfl, nofun, nofun⟩
  | none =>
    obtain ⟨moments, result, hreceive, hread⟩ := exists_receive config request peer
    have hawaiting : Along (route 3) (_ ++ .moved .sending .awaitingResponse :: moments) :=
      hsending.advance rfl hread.within
    rw [List.append_assoc] at hawaiting
    dsimp only
    rw [hreceive]
    exact ⟨3, hawaiting, rfl, .inr rfl, fun _ _ => rfl, fun _ => rfl⟩

/-! ## The shutdown -/

/-- What the shutdown makes of what a conversation has come to. -/
def Result.shut (lingers : Bool) : Result → Result
  | .done reply => if lingers then .forever else .done reply
  | result => result

theorem shutDown_result (c : Conversation) (lingers : Bool) :
    (c.shutDown lingers).result = c.result.shut lingers := by
  unfold shutDown
  cases hresult : c.result with
  | done outcome => cases lingers <;> simp [Result.shut]
  | forever => exact hresult
  | broken => exact hresult

@[simp]
theorem Result.shut_false (result : Result) : result.shut false = result := by
  cases result <;> rfl

theorem Result.shut_done_iff {result : Result} {lingers : Bool} {reply : Outcome Message} :
    result.shut lingers = .done reply ↔ result = .done reply ∧ lingers = false := by
  cases result <;> cases lingers <;> simp [shut]

theorem Result.shut_broken_iff {result : Result} {lingers : Bool} :
    result.shut lingers = .broken ↔ result = .broken := by
  cases result <;> cases lingers <;> simp [shut]

theorem shutDown_of_done {c : Conversation} {reply : Outcome Message} (h : c.result = .done reply) :
    c.shutDown false = { c with moments := c.moments ++ [.shutDown] } := by
  unfold shutDown
  rw [h]
  rfl

/-- A shutdown that does not come to an end leaves no moment. -/
theorem shutDown_unended {c : Conversation} {lingers : Bool}
    (h : ∀ reply, (c.shutDown lingers).result ≠ .done reply) :
    (c.shutDown lingers).moments = c.moments := by
  unfold shutDown at h ⊢
  cases hresult : c.result with
  | done outcome =>
    cases lingers with
    | true => rfl
    | false => simp [hresult] at h
  | forever => rfl
  | broken => rfl

/-! ## The whole conversation -/

/-- How a conversation ended: without a connection, or with one that was shut down last. -/
structure Held (c : Conversation) (early : List Moment) (n : Nat) : Prop where
  along : Along (route n) early
  stage : (route n).getLast? = some c.stage
  reached : n ≤ 3
  answered : ∀ message, c.result = .done (.ok message) → n = 3
  unconnected : n = 0 → c.moments = early ∧ ∀ m ∈ early, m.usesConnection = false
  connected : 0 < n → c.moments = early ++ [.shutDown]

/-- Nothing is told of a conversation before a connection is open but the attempts. -/
theorem along_attempts (tried : List Endpoint) : Along (route 0) (attempts tried) :=
  along_start.advance rfl (within_dialled tried)

theorem unused_attempts (tried : List Endpoint) :
    ∀ m ∈ attempts tried, m.usesConnection = false :=
  List.forall_mem_cons.2 ⟨rfl, List.forall_mem_map.2 fun _ _ => rfl⟩

theorem along_opened (tried : List Endpoint) : Along (route 1) (opened tried) :=
  (along_attempts tried).advance rfl nofun

/-- A conversation over a connection that opens goes on from there. -/
theorem hold_of_opened {config : Config} {request : Request} {peer : Peer}
    (hopen : (peer.openTo request.target true).result = .done (.ok ())) :
    hold config request peer =
      ((send config request peer).shutDown (peer.lingers request.target.secure)).after
        (opened (peer.openTo request.target true).tried) := by
  unfold hold
  simp only [hopen, Wait.within]

/-- What it comes to is what the shutdown leaves of it. -/
theorem hold_result_shut {config : Config} {request : Request} {peer : Peer}
    (hopen : (peer.openTo request.target true).result = .done (.ok ())) :
    (hold config request peer).result =
      (send config request peer).result.shut (peer.lingers request.target.secure) := by
  rw [hold_of_opened hopen]
  exact shutDown_result _ _

theorem hold_of_refused {config : Config} {request : Request} {peer : Peer} {failure : Failure}
    (hopen : (peer.openTo request.target true).result.within config.connectTimeout "connect" =
      .done (.error failure)) :
    hold config request peer =
      ⟨attempts (peer.openTo request.target true).tried, .connecting, .done (.error failure)⟩ := by
  unfold hold
  simp only [hopen]

theorem hold_of_waiting {config : Config} {request : Request} {peer : Peer}
    (hopen : (peer.openTo request.target true).result.within config.connectTimeout "connect" =
      .forever) :
    hold config request peer =
      ⟨attempts (peer.openTo request.target true).tried, .connecting, .forever⟩ := by
  unfold hold
  simp only [hopen]

/-- A conversation waits for its connection without end, or fails to get one, or gets it. -/
theorem opening_cases (config : Config) (request : Request) (peer : Peer) :
    (peer.openTo request.target true).result.within config.connectTimeout "connect" = .forever ∨
      (∃ failure, (peer.openTo request.target true).result.within config.connectTimeout
        "connect" = .done (.error failure)) ∨
      (peer.openTo request.target true).result = .done (.ok ()) := by
  cases hopen : (peer.openTo request.target true).result with
  | done opened =>
    cases opened with
    | ok => exact .inr (.inr rfl)
    | error failure => exact .inr (.inl ⟨failure, rfl⟩)
  | forever =>
    by_cases hlimit : config.connectTimeout.isSome
    · exact .inr (.inl ⟨_, if_pos hlimit⟩)
    · exact .inl (if_neg hlimit)

/-- A conversation that ends had no connection, or shut it down at the end. -/
theorem hold_held (config : Config) (request : Request) (peer : Peer)
    {reply : Outcome Message} (hended : (hold config request peer).result = .done reply) :
    ∃ early n, (hold config request peer).Held early n := by
  rcases opening_cases config request peer with hopen | ⟨failure, hopen⟩ | hopen
  · rw [hold_of_waiting hopen] at hended
    cases hended
  · rw [hold_of_refused hopen]
    exact ⟨_, 0, along_attempts _, rfl, Nat.zero_le 3, nofun, fun _ => ⟨rfl, unused_attempts _⟩,
      nofun⟩
  · obtain ⟨n, hsent⟩ := send_sent config request peer (along_opened _)
    -- Whatever came of the request, the connection is shut down after it.
    rw [hold_result_shut hopen] at hended
    obtain ⟨hdone, hlingers⟩ := Result.shut_done_iff.1 hended
    rw [hold_of_opened hopen, hlingers, shutDown_of_done hdone]
    have hpos : 1 < n := by
      rcases hsent.reached with rfl | rfl <;> decide
    refine ⟨_, n, hsent.along, hsent.stage, ?_, hsent.answered, fun hzero => ?_, fun _ => ?_⟩
    · rcases hsent.reached with rfl | rfl <;> decide
    · omega
    · exact (List.append_assoc _ _ _).symm

/-- The shutdown is no move and no report. -/
theorem Held.moves_eq {c : Conversation} {early : List Moment} {n : Nat} (h : c.Held early n) :
    moves c.moments = legs (route n) ∧ outcomes c.moments = [] := by
  rcases Nat.eq_zero_or_pos n with hzero | hpos
  · rw [(h.unconnected hzero).1]
    exact ⟨h.along.moves_eq, h.along.unreported⟩
  · rw [h.connected hpos, moves_append, outcomes_append, h.along.moves_eq, h.along.unreported]
    exact ⟨List.append_nil _, rfl⟩

/-- A conversation that does not end goes along its stages and stops. -/
theorem hold_unended (config : Config) (request : Request) (peer : Peer)
    (h : ∀ reply, (hold config request peer).result ≠ .done reply) :
    ∃ n ≤ 3, Along (route n) (hold config request peer).moments ∧
      ((hold config request peer).result = .broken → n = 3) := by
  rcases opening_cases config request peer with hopen | ⟨failure, hopen⟩ | hopen
  · rw [hold_of_waiting hopen]
    exact ⟨0, Nat.zero_le 3, along_attempts _, nofun⟩
  · rw [hold_of_refused hopen] at h
    exact absurd rfl (h _)
  · obtain ⟨n, hsent⟩ := send_sent config request peer (along_opened _)
    refine ⟨n, ?_, ?_, ?_⟩
    · rcases hsent.reached with rfl | rfl <;> decide
    · rw [hold_of_opened hopen] at h ⊢
      have hmoments := shutDown_unended h
      show Along (route n) (_ ++ (shutDown _ _).moments)
      rw [hmoments]
      exact hsent.along
    · intro hbroken
      rw [hold_result_shut hopen] at hbroken
      exact hsent.broken (Result.shut_broken_iff.1 hbroken)

/-! ## What a conversation comes to -/

theorem Result.ofWait_ne_broken (wait : Wait (Outcome Message)) : ofWait wait ≠ .broken := by
  cases wait <;> exact nofun

/-- What is read decides, if there is room for it. -/
theorem receive_of_room {config : Config} {request : Request} {peer : Peer}
    (h : Intake.overflow? request.method (.start config.maxContentLength) peer.reads = none) :
    (receive config request peer).result =
      .ofWait ((Intake.readAll request.method (peer.endingOver request.target.secure)
        (.start config.maxContentLength) peer.reads).2.within config.readTimeout "response") := by
  unfold receive
  simp only [h]

theorem receive_of_overflow {config : Config} {request : Request} {peer : Peer}
    {moments : List Moment}
    (h : Intake.overflow? request.method (.start config.maxContentLength) peer.reads =
      some moments) : (receive config request peer).result = .broken := by
  unfold receive
  simp only [h]

theorem send_of_trouble {config : Config} {request : Request} {peer : Peer} {t : Trouble}
    (hwrite : (peer.write request.encode).2 = some (.trouble t)) :
    (send config request peer).result = .done (.error (.writeFailed t.message)) := by
  unfold send
  simp only [hwrite]

theorem send_of_silence {config : Config} {request : Request} {peer : Peer}
    (hwrite : (peer.write request.encode).2 = some .silence) :
    (send config request peer).result = .forever := by
  unfold send
  simp only [hwrite]

/-- A request that is taken whole gets what is received. -/
theorem send_of_written {config : Config} {request : Request} {peer : Peer}
    (hwrite : (peer.write request.encode).2 = none) :
    (send config request peer).result = (receive config request peer).result := by
  unfold send
  simp only [hwrite]
  rfl

/-- What sending comes to, if the connection is not lingered over. -/
theorem hold_result {config : Config} {request : Request} {peer : Peer}
    (hopen : (peer.openTo request.target true).result = .done (.ok ()))
    (hlingers : peer.lingers request.target.secure = false) :
    (hold config request peer).result = (send config request peer).result := by
  rw [hold_result_shut hopen, hlingers, Result.shut_false]

/-- The request is taken, and there is no room for the response. -/
structure Outgrown (config : Config) (request : Request) (peer : Peer) : Prop where
  opened : (peer.openTo request.target true).result = .done (.ok ())
  written : (peer.write request.encode).2 = none
  overflow : ∃ moments, Intake.overflow? request.method (.start config.maxContentLength)
    peer.reads = some moments

theorem send_of_outgrown {config : Config} {request : Request} {peer : Peer}
    (h : Outgrown config request peer) : (send config request peer).result = .broken := by
  obtain ⟨moments, hover⟩ := h.overflow
  rw [send_of_written h.written, receive_of_overflow hover]

/-- A conversation breaks off exactly where there is no room for the response. -/
theorem hold_broken_iff {config : Config} {request : Request} {peer : Peer} :
    (hold config request peer).result = .broken ↔ Outgrown config request peer := by
  constructor
  · intro h
    rcases opening_cases config request peer with hopen | ⟨failure, hopen⟩ | hopen
    · rw [hold_of_waiting hopen] at h
      cases h
    · rw [hold_of_refused hopen] at h
      cases h
    · rw [hold_result_shut hopen] at h
      have hsend := Result.shut_broken_iff.1 h
      cases hwrite : (peer.write request.encode).2 with
      | some stop =>
        cases stop with
        | trouble t => cases (send_of_trouble hwrite).symm.trans hsend
        | silence => cases (send_of_silence hwrite).symm.trans hsend
      | none =>
        rw [send_of_written hwrite] at hsend
        cases hover : Intake.overflow? request.method (.start config.maxContentLength)
            peer.reads with
        | some moments => exact ⟨hopen, hwrite, moments, hover⟩
        | none =>
          rw [receive_of_room hover] at hsend
          exact absurd hsend (Result.ofWait_ne_broken _)
  · intro h
    rw [hold_result_shut h.opened, send_of_outgrown h]
    rfl

/-- A message may be refused by its scope; a failure stays one. -/
theorem handOver_ok {reply : Outcome Message} {scope : ScopeId} {store : Store}
    {received : Received} (h : (handOver reply scope store).2 = .ok received) :
    ∃ message, reply = .ok message := by
  cases reply with
  | ok message => exact ⟨message, rfl⟩
  | error failure => cases h

end Conversation

/-! ## The whole exchange -/

/-- What the course of an exchange that has ended is like, if it got `n` stages beyond
connecting, and its outcome. -/
structure Conclusion.Proper (c : Conclusion) (n : Nat) (last : Stage)
    (outcome : Outcome Received) : Prop where
  /-- It went through the stages in order, and then to the last one. -/
  moves_eq : moves c.moments = legs (route n ++ [last])
  reached : n ≤ 3
  /-- It failed, or got through all stages and completed with a response. -/
  ended : last = .failed ∧ (∃ failure, outcome = .error failure) ∨
    last = .completed ∧ (∃ received, outcome = .ok received) ∧ n = 3
  /-- It reported once. -/
  reported : outcomes c.moments = [outcome]
  /-- Without a connection nothing was written, read or shut down. -/
  unconnected : n = 0 → ∀ m ∈ c.moments, m.usesConnection = false
  /-- A connection was shut down once, before the end and the report, and not used
  afterwards. -/
  connected : 0 < n → ∃ early late, c.moments = early ++ .shutDown :: late ∧
    Moment.shutDown ∉ early ∧ moves early = legs (route n) ∧ outcomes early = [] ∧
    ∀ m ∈ late, m.usesConnection = false

namespace Conversation

/-- What follows a conversation that has ended is warnings, the end and the report. -/
theorem conclude_of_done {c : Conversation} {reply : Outcome Message}
    (hended : c.result = .done reply) (scope : ScopeId) (store : Store)
    (promise : Promise Received) :
    ∃ late, (c.conclude scope store promise).moments = c.moments ++ late ∧
      moves late = [(c.stage, lastStage (handOver reply scope store).2)] ∧
      outcomes late = [(handOver reply scope store).2] ∧
      ∀ m ∈ late, m.usesConnection = false := by
  let outcome := (handOver reply scope store).2
  let warnings := store.warningsSince (handOver reply scope store).1
  let unheard : List Warning :=
    if (promise.complete outcome).2 = .unheard then [.unheardOutcome] else []
  have hbefore := within_warned warnings
  have hafter := within_warned unheard
  refine ⟨warnings.map .warned ++ .moved c.stage (lastStage outcome) :: .reported outcome ::
    unheard.map .warned, ?_, ?_, ?_, ?_⟩
  · unfold conclude
    simp only [hended, List.append_assoc]
    dsimp only [unheard, outcome]
    split <;> rfl
  · rw [moves_append, hbefore.moves_eq]
    exact congrArg (_ :: ·) hafter.moves_eq
  · rw [outcomes_append, hbefore.outcomes_eq]
    exact congrArg (_ :: ·) hafter.outcomes_eq
  · simp [Moment.usesConnection, or_imp, forall_and]

/-- One that goes on for ever leaves everything as it is. -/
theorem conclude_of_forever {c : Conversation} (h : c.result = .forever) (scope : ScopeId)
    (store : Store) (promise : Promise Received) :
    c.conclude scope store promise = ⟨c.moments, store, promise⟩ := by
  unfold conclude
  rw [h]

/-- One that broke off leaves the promise to itself. -/
theorem conclude_of_broken {c : Conversation} (h : c.result = .broken) (scope : ScopeId)
    (store : Store) (promise : Promise Received) :
    c.conclude scope store promise = ⟨c.moments, store, promise.giveUp.1⟩ := by
  unfold conclude
  rw [h]

/-- Neither adds a moment. -/
theorem conclude_moments_of_unended {c : Conversation} (h : ∀ reply, c.result ≠ .done reply)
    (scope : ScopeId) (store : Store) (promise : Promise Received) :
    (c.conclude scope store promise).moments = c.moments := by
  cases hresult : c.result with
  | done reply => exact absurd hresult (h reply)
  | forever => rw [conclude_of_forever hresult]
  | broken => rw [conclude_of_broken hresult]

/-- The course of a conversation is completed properly. -/
theorem Held.proper {c : Conversation} {early : List Moment} {n : Nat} (h : c.Held early n)
    {reply : Outcome Message} (hended : c.result = .done reply)
    (scope : ScopeId) (store : Store) (promise : Promise Received) :
    (c.conclude scope store promise).Proper n (lastStage (handOver reply scope store).2)
      (handOver reply scope store).2 := by
  obtain ⟨late, hmoments, hlast, hreport, hunused⟩ :=
    conclude_of_done hended scope store promise
  obtain ⟨hmoves, houtcomes⟩ := h.moves_eq
  refine ⟨?_, h.reached, ?_, ?_, fun hzero => ?_, fun hpos => ?_⟩
  · rw [hmoments, moves_append, hmoves, hlast, legs_concat h.stage]
  · cases hresult : (handOver reply scope store).2 with
    | error failure => exact .inl ⟨rfl, failure, rfl⟩
    | ok received =>
      obtain ⟨message, rfl⟩ := handOver_ok hresult
      exact .inr ⟨rfl, ⟨received, rfl⟩, h.answered message hended⟩
  · rw [hmoments, outcomes_append, houtcomes, hreport, List.nil_append]
  · obtain ⟨hearly, hunconnected⟩ := h.unconnected hzero
    rw [hmoments, hearly]
    exact List.forall_mem_append.2 ⟨hunconnected, hunused⟩
  · refine ⟨early, late, ?_, h.along.unshut, h.along.moves_eq, h.along.unreported, hunused⟩
    rw [hmoments, h.connected hpos, List.append_assoc]
    rfl

theorem conclude_promise {c : Conversation} {reply : Outcome Message}
    (hended : c.result = .done reply) (scope : ScopeId) (store : Store)
    (promise : Promise Received) :
    (c.conclude scope store promise).promise =
      (promise.complete (handOver reply scope store).2).1 := by
  unfold conclude
  rw [hended]

end Conversation

/-- The end that reports is used up, and the outcome waits if anybody does. -/
theorem Promise.complete_of_working {α : Type} {promise : Promise α}
    (hworking : promise.fulfiller = .working) (outcome : Outcome α) :
    (promise.complete outcome).1 =
      if promise.awaited then ⟨.reported outcome, true⟩ else ⟨.spent, false⟩ := by
  unfold complete
  rw [hworking]
  dsimp only
  split <;> rfl

theorem Promise.giveUp_of_working {α : Type} {promise : Promise α}
    (hworking : promise.fulfiller = .working) : promise.giveUp.1 = ⟨.spent, promise.awaited⟩ := by
  unfold giveUp
  rw [hworking]

/-- The course of an exchange that has not ended, `n` stages beyond connecting: no stage is the
last one, nothing is reported, and the connection is not shut down. -/
structure Conclusion.Unended (c : Conclusion) (n : Nat) : Prop where
  moves_eq : moves c.moments = legs (route n)
  reached : n ≤ 3
  unreported : outcomes c.moments = []
  unshut : Moment.shutDown ∉ c.moments

namespace Client

variable {config : Config} {r : Request} {peer : Peer} {promise : Promise Received}

/-- The exchange of a conversation that does not end does not end either. -/
theorem perform_unended (scope : ScopeId) (store : Store)
    (h : ∀ reply, (Conversation.hold config r peer).result ≠ .done reply) :
    ∃ n, (perform config r peer scope store promise).Unended n ∧
      ((Conversation.hold config r peer).result = .broken → n = 3) := by
  obtain ⟨n, hreached, halong, hbroken⟩ := Conversation.hold_unended config r peer h
  have hmoments : (perform config r peer scope store promise).moments =
      (Conversation.hold config r peer).moments :=
    Conversation.conclude_moments_of_unended h scope store promise
  refine ⟨n, ⟨?_, hreached, ?_, ?_⟩, hbroken⟩
  · rw [hmoments, halong.moves_eq]
  · rw [hmoments, halong.unreported]
  · rw [hmoments]
    exact halong.unshut

/-- An exchange whose conversation ends, in whatever way, has a proper course, whatever has
become of the caller's scope and of the promise by then; and the promise gets the outcome that
is reported. One that waits without end keeps its promise waiting. One that breaks off, which it
does only behind bytes for which there is no room, though the limit allows them, is over too:
it was waiting for the response, and its promise has nobody left to report. -/
theorem perform_proper (config : Config) (r : Request) (peer : Peer) (scope : ScopeId)
    (store : Store) {promise : Promise Received} (hworking : promise.fulfiller = .working) :
    let exchange := perform config r peer scope store promise
    match (Conversation.hold config r peer).result with
    | .done _ =>
      ∃ n last outcome, exchange.Proper n last outcome ∧
        exchange.promise =
          if promise.awaited then ⟨.reported outcome, true⟩ else ⟨.spent, false⟩
    | .forever => (∃ n, exchange.Unended n) ∧ exchange.promise = promise
    | .broken =>
      exchange.Unended 3 ∧ exchange.promise = ⟨.spent, promise.awaited⟩ ∧
        Intake.maxPiece < config.maxContentLength ∧
        ∃ i, Intake.Reaches r.method (.start config.maxContentLength) i ∧
          ((∃ n, i.Declares r.method n ∧ Intake.maxPiece < n) ∨
            Intake.maxPiece < i.draft.body.length) := by
  intro exchange
  cases hresult : (Conversation.hold config r peer).result with
  | done reply =>
    obtain ⟨early, n, hheld⟩ := Conversation.hold_held config r peer hresult
    refine ⟨n, _, _, hheld.proper hresult scope store promise, ?_⟩
    rw [← Promise.complete_of_working hworking]
    exact Conversation.conclude_promise hresult scope store promise
  | forever =>
    obtain ⟨n, hunended, -⟩ := perform_unended scope store fun reply hdone =>
      nomatch hresult.symm.trans hdone
    have hconclude := Conversation.conclude_of_forever hresult scope store promise
    exact ⟨⟨n, hunended⟩, congrArg Conclusion.promise hconclude⟩
  | broken =>
    obtain ⟨n, hunended, hlast⟩ := perform_unended scope store fun reply hdone =>
      nomatch hresult.symm.trans hdone
    obtain ⟨moments, hover⟩ := (Conversation.hold_broken_iff.1 hresult).overflow
    have hconclude := Conversation.conclude_of_broken hresult scope store promise
    refine ⟨hlast hresult ▸ hunended, ?_, Intake.limit_of_overflow hover,
      Intake.room_of_overflow hover⟩
    rw [← Promise.giveUp_of_working hworking]
    exact congrArg Conclusion.promise hconclude

end Client

/-! ## A peer that hinders nothing -/

theorem flatten_cutReads (bytes : Bytes) : (cutReads bytes).flatten = bytes := by
  fun_induction cutReads bytes with
  | case1 bytes hnil => exact (List.isEmpty_iff.1 hnil).symm
  | case2 bytes _ ih => rw [List.flatten_cons, ih, List.take_append_drop]

/-- One read is enough for a few bytes. -/
theorem cutReads_of_length_le {bytes : Bytes} (hne : bytes ≠ []) (h : bytes.length ≤ readSize) :
    cutReads bytes = [bytes] := by
  rw [cutReads, if_neg (mt List.isEmpty_iff.1 hne), List.take_of_length_le h,
    List.drop_of_length_le h, cutReads, if_pos List.isEmpty_nil]

namespace Peer

variable {p : Peer} {target : Target}

/-- A target that needs no TLS, or can be verified by a peer that has TLS, is secured. -/
theorem secure_ok (hname : target.secure = true → ServerName.valid target.host = true)
    (htls : p.tls.negotiation = none) : p.secure target true = .done (.ok ()) := by
  unfold secure negotiate
  cases hsecure : target.secure with
  | false => rfl
  | true => simp only [hname hsecure, htls, Bool.not_true, Bool.false_eq_true, if_false]

theorem openTo_unverified (hsecure : target.secure = true)
    (hname : ServerName.valid target.host = false) :
    (p.openTo target true).result ≠ .done (.ok ()) := by
  intro hopen
  unfold openTo secure at hopen
  simp only [hsecure, hname, Bool.not_true, Bool.not_false, Bool.false_eq_true, if_false,
    if_true] at hopen
  split at hopen <;> cases hopen

/-- A host with one address, a connect that nothing stops, and then TLS or no need for it: the
connection opens. -/
theorem openTo_ok {address : Address} (hlookup : p.lookup = .ok [address])
    (hconnects : p.connects = [])
    (hname : target.secure = true → ServerName.valid target.host = true)
    (htls : p.tls.negotiation = none) : (p.openTo target true).result = .done (.ok ()) := by
  obtain ⟨address', haddresses⟩ : ∃ address', p.addresses target.host = .ok [address'] := by
    unfold addresses
    split
    · exact ⟨_, rfl⟩
    · exact ⟨_, hlookup⟩
  have hdial : (p.dial target.host target.port).stop = none := by
    unfold dial
    rw [haddresses, hconnects]
    rfl
  unfold openTo
  simp only [hdial, secure_ok hname htls]

/-- A peer that takes every connection and every request, sends some bytes and closes. -/
def sender (bytes : Bytes) : Peer := ⟨.ok [.ipv4 ⟨0x7f000001⟩], [], none, [bytes], none, {}⟩

theorem flatten_reads_sender (bytes : Bytes) : (sender bytes).reads.flatten = bytes := by
  rw [reads, sender, List.flatMap_singleton, flatten_cutReads]

theorem reads_of_part {bytes : Bytes} (hparts : p.parts = [bytes]) (hne : bytes ≠ [])
    (h : bytes.length ≤ readSize) : p.reads = [bytes] := by
  rw [reads, hparts, List.flatMap_singleton, cutReads_of_length_le hne h]

theorem openTo_sender (bytes : Bytes)
    (hname : target.secure = true → ServerName.valid target.host = true) :
    ((sender bytes).openTo target true).result = .done (.ok ()) := openTo_ok rfl rfl hname rfl

theorem lingers_sender (bytes : Bytes) (secure : Bool) :
    (sender bytes).lingers secure = false := by
  cases secure <;> rfl

end Peer

/-- What sends bytes is asked for a response, and a conversation comes to what is read. -/
theorem Conversation.hold_sender {config : Config} {r : Request} (bytes : Bytes)
    (hname : r.target.secure = true → ServerName.valid r.target.host = true) :
    (hold config r (.sender bytes)).result = (receive config r (.sender bytes)).result := by
  rw [hold_result (Peer.openTo_sender bytes hname) (Peer.lingers_sender bytes _)]
  rfl

theorem Peer.endingOver_sender (bytes : Bytes) (secure : Bool) :
    (sender bytes).endingOver secure = none := by
  cases secure <;> rfl

/-- Of a configuration the preparation of a request sees nothing but the name of the agent. -/
theorem prepare_config {config config' : Config} (h : config.userAgent = config'.userAgent)
    (spec : RequestSpec) : prepare spec config = prepare spec config' := by
  unfold prepare Request.completeHeaders
  rw [h]

namespace Client

/-- A short greeting. -/
def greeting : Rendition :=
  ⟨⟨"1", 200, some "OK", [⟨"Content-Length", "2"⟩]⟩, .sized [104, 105]⟩

/-- A request to be greeted. -/
def greetingRequest : Request :=
  ⟨.get, ⟨"http".toList, [], [], some (.ipv4 ⟨0x7f000001⟩), none, .segments [[]], none, none⟩, "/",
    ⟨[⟨"Host", "127.0.0.1"⟩, ⟨"Connection", "close"⟩]⟩, [], ⟨"127.0.0.1", 80, false⟩⟩

theorem prepare_greeting : prepare ⟨.get, some "http://127.0.0.1/", .empty, none⟩ {} =
    .ok greetingRequest := by decide

/-- The exchange in which the greeting is received for a scope that is live. -/
theorem perform_proper_greeting :
    Promise.new.fulfiller = (.working : Fulfiller Received) ∧
      ∃ n last outcome,
        (perform {} greetingRequest (.sender greeting.wire) ⟨0⟩ { scopes := [.live []] }
            .new).Proper n last outcome ∧
          (perform {} greetingRequest (.sender greeting.wire) ⟨0⟩ { scopes := [.live []] }
            .new).promise = ⟨.reported outcome, true⟩ := by
  have hvalid : greeting.Valid := by decide
  have hread : (Intake.readAll .get none (.start (10 * 1024 * 1024))
      (Peer.sender greeting.wire).reads).2 = .done (.ok greeting.message) :=
    Intake.readAll_rendition hvalid trivial rfl _ nofun (Peer.flatten_reads_sender _)
  have hroom : Intake.overflow? .get (.start (10 * 1024 * 1024))
      (Peer.sender greeting.wire).reads = none := Intake.overflow?_of_limit (by decide) _
  have hended : (Conversation.hold {} greetingRequest (.sender greeting.wire)).result =
      .done (.ok greeting.message) := by
    rw [Conversation.hold_sender _ (by decide), Conversation.receive_of_room hroom]
    exact congrArg (fun wait => Conversation.Result.ofWait (Wait.within none "response" wait)) hread
  have hproper := perform_proper {} greetingRequest (.sender greeting.wire) ⟨0⟩
    { scopes := [.live []] } (rfl : Promise.new.fulfiller = (.working : Fulfiller Received))
  dsimp only at hproper
  rw [hended] at hproper
  exact ⟨rfl, hproper⟩

/-- A head that declares a body as long as a length can be written in 64 bits. -/
def boundlessHead : Head :=
  ⟨"1", 200, some "OK", [⟨"Content-Length", "18446744073709551615"⟩]⟩

/-- The configuration without a limit on the body. -/
def boundless : Config := { maxContentLength := 18446744073709551615 }

theorem outgrown_boundless :
    Conversation.Outgrown boundless greetingRequest (.sender boundlessHead.wire) where
  opened := Peer.openTo_sender _ (by decide)
  written := rfl
  overflow := by
    have hreads : (Peer.sender boundlessHead.wire).reads = [boundlessHead.wire] :=
      Peer.reads_of_part rfl (by decide) (by decide)
    have hvalid : boundlessHead.Valid := by decide
    have hchoose : Framing.choose .get boundlessHead.code boundlessHead.headers =
        .ok (.sized 18446744073709551615) := by decide
    rw [hreads]
    exact Intake.exists_overflow hvalid rfl hchoose (by decide) (Nat.le_refl _)

/-- The exchange breaks off behind that head if there is no limit: its promise resolves, but it
neither completes nor fails, reports nothing, and does not shut the connection down. -/
theorem perform_broken :
    let exchange := perform boundless greetingRequest (.sender boundlessHead.wire) ⟨0⟩
      { scopes := [.live []] } .new
    prepare ⟨.get, some "http://127.0.0.1/", .empty, none⟩ boundless = .ok greetingRequest ∧
      exchange.promise.poll.2 = .resolved (.error .abandoned) ∧
      moves exchange.moments = [(.idle, .connecting), (.connecting, .connected),
        (.connected, .sending), (.sending, .awaitingResponse)] ∧
      outcomes exchange.moments = [] ∧ Moment.shutDown ∉ exchange.moments := by
  intro exchange
  have hprepare : prepare ⟨.get, some "http://127.0.0.1/", .empty, none⟩ boundless =
      .ok greetingRequest := (prepare_config rfl _).trans prepare_greeting
  have hbroken := Conversation.hold_broken_iff.2 outgrown_boundless
  obtain ⟨n, hunended, hlast⟩ : ∃ n, exchange.Unended n ∧
      ((Conversation.hold boundless greetingRequest (.sender boundlessHead.wire)).result = .broken →
        n = 3) :=
    perform_unended ⟨0⟩ { scopes := [.live []] } fun reply hdone =>
      nomatch hbroken.symm.trans hdone
  obtain rfl := hlast hbroken
  have hconclude := Conversation.conclude_of_broken hbroken ⟨0⟩ { scopes := [.live []] } .new
  refine ⟨hprepare, ?_, hunended.moves_eq, hunended.unreported, hunended.unshut⟩
  exact congrArg (fun c => c.promise.poll.2) hconclude

end Client

end Http1Client
