import Mathlib.Logic.Function.Basic
import StepUp.Proofs.Flow.Operations
import StepUp.Proofs.Flow.Run

/-!
# Independence of attempts

A host works on many attempts at a time, with one service and the cache of patterns that all of them
share.  This file models such a host (`Host.run`) and shows that the attempts do not notice one
another: what a host answers for an attempt, and the attempt itself after each event, are what they
would be if this attempt's events came alone, to a service built anew (`operate_alone`).

Attempts meet in the cache only.  The answers of resolvers do not depend on it (`Cached.Steady`),
and so neither do those of the operations.  The clock is read when an attempt finishes, and shows up
nowhere but in the instant of the composite (`Service.finish_eq_stamped`); where answers are
compared, this instant is left out (`Reply.timeless`).
-/

namespace StepUp

open Cached

/-! ## What the operations depend on -/

/-- The authentication with its instant replaced. -/
def Authentication.stamped (a : Authentication) (now : Time.Timestamp) : Authentication :=
  { a with authenticatedAt := now }

theorem Chain.compose_eq_stamped (c : Chain) (now now' : Time.Timestamp) :
    c.compose now = (c.compose now').map fun m => { m with authenticatedAt := now } := by
  unfold compose
  split <;> rfl

/-- A requirement does not look at the instant. -/
theorem Validation.check_stamped (v : Validation) (a : Authentication) (now : Time.Timestamp) :
    v.check [a.stamped now] = v.check [a] :=
  rfl

variable [Regex.Dialect]

namespace Service

theorem steady_begin (s : Service) (q : LoginRequest) : Steady (s.begin q) :=
  steady_bind (s.aggregator.steady_aggregate _) fun _ => steady_pure _

theorem steady_principalDemand (s : Service) (x : Attempt) (q : LoginRequest) (a : Authentication) :
    Steady (s.principalDemand x q a) := by
  unfold principalDemand
  split
  · exact steady_pure _
  · exact s.aggregator.steady_resolvePrincipal _

theorem completePrimary_steady (s : Service) (x : Attempt) (q : LoginRequest) (a : Authentication)
    (credential : Option Credential) (c c' : PatternCache) :
    (s.completePrimary x q a credential c).1 = (s.completePrimary x q a credential c').1 := by
  rw [completePrimary_eq, completePrimary_eq, s.steady_principalDemand x q a c c']

omit [Regex.Dialect] in
/-- Of what finishes, the clock determines the instant and nothing else. -/
theorem finish_eq_stamped (s : Service) (x : Attempt) (now now' : Time.Timestamp) :
    s.finish x now = (s.finish x now').map (·.stamped now) := by
  unfold finish
  rw [x.chain.compose_eq_stamped now now']
  cases x.chain.compose now' with
  | error e => rfl
  | ok composite =>
      have hstamped : Composite.toAuthentication { composite with authenticatedAt := now } =
          composite.toAuthentication.stamped now := rfl
      simp only [Except.map, hstamped, Validation.check_stamped]
      cases s.requirement x with
      | error e => rfl
      | ok v =>
          dsimp only
          cases v.check [composite.toAuthentication] with
          | error e => rfl
          | ok met => cases met <;> rfl

end Service

/-! ## Events and replies -/

/-- What is asked of a host for one of its attempts. -/
inductive Event where
  | begin (request : LoginRequest)
  | call (call : Service.Call)
  | finish

/-- What a host answers. -/
inductive Reply where
  | begun (result : Except ServiceError Attempt)
  | decided (result : Except ServiceError Decision)
  | advanced (result : Except ServiceError Outcome)
  | finished (result : Except ServiceError Authentication)
  /-- Nothing was begun under this key. -/
  | noAttempt

/-- The reply without the instant at which the attempt finished. -/
def Reply.timeless : Reply → Reply
  | finished result => finished (result.map (·.stamped .epoch))
  | reply => reply

namespace Service

variable {s : Service} {c : PatternCache}

/-- What a call on an attempt answers, and the attempt that it leaves. -/
def perform (s : Service) (x : Attempt) : Call → StateM PatternCache (Reply × Attempt)
  | .evaluate q => return ((s.evaluate x q).map .decided id)
  | .completePrimary q a credential =>
      return ((← s.completePrimary x q a credential).map .advanced id)
  | .completeMethod a credential => return ((s.completeMethod x a credential).map .advanced id)

/-- What is answered when a login begins or cannot begin, and the attempt that is there then. -/
def begun (current : Option Attempt) (result : Except ServiceError Attempt) :
    Reply × Option Attempt :=
  (.begun result, match result with
    | .ok x => some x
    | .error _ => current)

/-- What an event answers, and the attempt that it leaves, if any. -/
def serve (s : Service) (now : Time.Timestamp) (current : Option Attempt) :
    Event → StateM PatternCache (Reply × Option Attempt)
  | .begin q => return begun current (← (s.begin q).run)
  | .call call =>
      match current with
      | none => return (.noAttempt, none)
      | some x => return (← s.perform x call).map id some
  | .finish =>
      match current with
      | none => return (.noAttempt, none)
      | some x => return (.finished (s.finish x now), some x)

theorem perform_attempt (s : Service) (x : Attempt) (call : Call) (c : PatternCache) :
    (s.perform x call c).1.2 = s.after x c call := by
  cases call <;> rfl

theorem perform_steady (s : Service) (x : Attempt) (call : Call) (c c' : PatternCache) :
    (s.perform x call c).1 = (s.perform x call c').1 := by
  cases call with
  | evaluate q => rfl
  | completeMethod a credential => rfl
  | completePrimary q a credential =>
      exact congrArg (Prod.map Reply.advanced id) (s.completePrimary_steady x q a credential c c')

theorem serve_begin (s : Service) (now : Time.Timestamp) (current : Option Attempt)
    (q : LoginRequest) (c : PatternCache) :
    (s.serve now current (.begin q) c).1 = begun current (answer (s.begin q) c) :=
  rfl

/-- What an event answers depends neither on the cache nor, up to the instant, on the clock. -/
theorem serve_steady (s : Service) (current : Option Attempt) (event : Event)
    (now now' : Time.Timestamp) (c c' : PatternCache) :
    (s.serve now current event c).1.map Reply.timeless id =
      (s.serve now' current event c').1.map Reply.timeless id := by
  cases event with
  | begin q => rw [serve_begin, serve_begin, s.steady_begin q c c']
  | call call =>
      cases current with
      | none => rfl
      | some x =>
          have hsame := s.perform_steady x call c c'
          change ((s.perform x call c).1.map id some).map Reply.timeless id =
            ((s.perform x call c').1.map id some).map Reply.timeless id
          rw [hsame]
  | finish =>
      cases current with
      | none => rfl
      | some x =>
          change (Reply.timeless (.finished (s.finish x now)), some x) =
            (Reply.timeless (.finished (s.finish x now')), some x)
          rw [finish_eq_stamped s x now now']
          cases s.finish x now' <;> rfl

/-- An event begins a run or goes on with one. -/
theorem reachable_of_serve {now : Time.Timestamp} {current : Option Attempt} {event : Event}
    {y : Attempt} (hcurrent : ∀ x, current = some x → ∃ q, s.Reachable q x)
    (h : (s.serve now current event c).1.2 = some y) : ∃ q, s.Reachable q y := by
  cases event with
  | begin q =>
      rw [serve_begin] at h
      cases hbegin : answer (s.begin q) c with
      | error e =>
          rw [hbegin] at h
          exact hcurrent y h
      | ok x =>
          rw [hbegin] at h
          cases h
          exact ⟨q, .begin hbegin⟩
  | call call =>
      cases current with
      | none => cases h
      | some x =>
          obtain ⟨q, hx⟩ := hcurrent x rfl
          have hy : (s.perform x call c).1.2 = y := Option.some.inj h
          rw [perform_attempt] at hy
          exact ⟨q, hy ▸ .call call c hx⟩
  | finish =>
      cases current with
      | none => cases h
      | some x => exact hcurrent y h

end Service

/-! ## Hosts -/

/-- The attempts of a host, each under a key of its own, and the cache that they share. -/
structure Host where
  attempts : ℕ → Option Attempt := fun _ => none
  cache : PatternCache

/-- What is on record of an event: the reply, and the attempt that the event left. -/
structure Entry where
  key : ℕ
  reply : Reply
  attempt : Option Attempt

namespace Host

variable {s : Service} {h h' : Host} {j k : ℕ}

/-- The host after an event for the attempt of a key. -/
def step (s : Service) (now : Time.Timestamp) (h : Host) (k : ℕ) (event : Event) : Entry × Host :=
  let r := s.serve now (h.attempts k) event h.cache
  ({ key := k, reply := r.1.1, attempt := r.1.2 },
    { attempts := Function.update h.attempts k r.1.2, cache := r.2 })

/-- The host after events in a row, each at the next instant of the clock. -/
def run (s : Service) (clock : ℕ → Time.Timestamp) (h : Host) : List (ℕ × Event) → List Entry × Host
  | [] => ([], h)
  | (k, event) :: rest =>
      let first := h.step s (clock 0) k event
      let later := first.2.run s (fun n => clock (n + 1)) rest
      (first.1 :: later.1, later.2)

/-- What is to be seen of one attempt: what its events answered, up to instants, and left, and the
attempt in the end. -/
def seen (k : ℕ) (r : List Entry × Host) : List (Reply × Option Attempt) × Option Attempt :=
  ((r.1.filter (·.key == k)).map fun e => (e.reply.timeless, e.attempt), r.2.attempts k)

theorem seen_own {e : Entry} (heq : e.key = k) (r : List Entry × Host) :
    seen k (e :: r.1, r.2) = ((e.reply.timeless, e.attempt) :: (seen k r).1, (seen k r).2) := by
  simp [seen, heq]

theorem seen_other {e : Entry} (hne : e.key ≠ k) (r : List Entry × Host) :
    seen k (e :: r.1, r.2) = seen k r := by
  simp [seen, hne]

/-- An event leaves the attempts of other keys as they are. -/
theorem step_other (hne : j ≠ k) (now : Time.Timestamp) (event : Event) :
    (h.step s now k event).2.attempts j = h.attempts j :=
  Function.update_of_ne hne _ _

/-- What an event for an attempt answers and leaves depends on no other attempt. -/
theorem step_own (heq : h.attempts k = h'.attempts k) (now now' : Time.Timestamp) (event : Event) :
    (h.step s now k event).1.reply.timeless = (h'.step s now' k event).1.reply.timeless ∧
      (h.step s now k event).1.attempt = (h'.step s now' k event).1.attempt ∧
      (h.step s now k event).2.attempts k = (h'.step s now' k event).2.attempts k := by
  have hserve := s.serve_steady (h.attempts k) event now now' h.cache h'.cache
  obtain ⟨hreply, hattempt⟩ := Prod.mk.inj hserve
  rw [heq] at hreply hattempt
  refine ⟨?_, ?_, ?_⟩
  · simpa [step, heq] using hreply
  · simpa [step, heq] using hattempt
  · simpa [step, heq] using hattempt

/-- Two hosts that agree on an attempt show the same of it, when one serves all events and the other
those of this attempt only. -/
theorem seen_run (heq : h.attempts k = h'.attempts k) (clock clock' : ℕ → Time.Timestamp)
    (events : List (ℕ × Event)) :
    seen k (h.run s clock events) = seen k (h'.run s clock' (events.filter (·.1 == k))) := by
  induction events generalizing h h' clock clock' with
  | nil => exact congrArg (([], ·)) heq
  | cons e rest ih =>
      obtain ⟨j, event⟩ := e
      by_cases hkey : j = k
      · -- an event of the attempt itself: both hosts serve it
        subst hkey
        obtain ⟨hreply, hattempt, hleft⟩ := step_own (s := s) heq (clock 0) (clock' 0) event
        have hrest := ih hleft (fun n => clock (n + 1)) (fun n => clock' (n + 1))
        rw [List.filter_cons_of_pos (by simp)]
        calc seen j (h.run s clock ((j, event) :: rest))
            = (((h.step s (clock 0) j event).1.reply.timeless,
                (h.step s (clock 0) j event).1.attempt) :: _, _) := seen_own (k := j) rfl _
          _ = _ := by rw [hreply, hattempt, hrest]
          _ = _ := (seen_own (k := j) rfl _).symm
      · -- an event of another attempt: the second host does not see it
        have hsame : (h.step s (clock 0) j event).2.attempts k = h'.attempts k :=
          (step_other (Ne.symm hkey) _ _).trans heq
        rw [List.filter_cons_of_neg (by simpa using hkey)]
        calc seen k (h.run s clock ((j, event) :: rest))
            = seen k ((h.step s (clock 0) j event).2.run s (fun n => clock (n + 1)) rest) :=
              seen_other hkey _
          _ = seen k (h'.run s clock' (rest.filter (·.1 == k))) := ih hsame _ _

/-! ## Hosts and runs -/

/-- Each attempt of the host is one that a run of the service reaches. -/
def Sound (s : Service) (h : Host) : Prop :=
  ∀ k x, h.attempts k = some x → ∃ q, s.Reachable q x

theorem sound_step (hh : h.Sound s) (now : Time.Timestamp) (event : Event) :
    (h.step s now k event).2.Sound s := by
  intro j x hx
  by_cases hkey : j = k
  · subst hkey
    have hserve : (s.serve now (h.attempts j) event h.cache).1.2 = some x := by
      simpa [step] using hx
    exact Service.reachable_of_serve (hh j) hserve
  · rw [step_other hkey] at hx
    exact hh j x hx

theorem sound_run (hh : h.Sound s) (clock : ℕ → Time.Timestamp) (events : List (ℕ × Event)) :
    (h.run s clock events).2.Sound s := by
  induction events generalizing h clock with
  | nil => exact hh
  | cons e rest ih => exact ih (sound_step hh (clock 0) e.2) _

end Host

/-- A host that builds a service of some settings and serves events with it, in the order in which
they come. -/
def operate (settings : Settings) (methodsFile : Option String)
    (sessions : String → Option Authentication) (services : String → Option RegisteredService)
    (clock : ℕ → Time.Timestamp) (events : List (ℕ × Event)) :
    Except ServiceError (List Entry × Host) :=
  let built := Service.build settings methodsFile sessions services .empty
  built.1.map fun s => Host.run s clock { cache := built.2 } events

/-- Whatever attempts a host works on, and however their events alternate: each attempt goes as it
does when its events come alone, to a service built anew, up to the instants of the clock. -/
theorem operate_alone (settings : Settings) (methodsFile : Option String)
    (sessions : String → Option Authentication) (services : String → Option RegisteredService)
    (clock clock' : ℕ → Time.Timestamp) (events : List (ℕ × Event)) (k : ℕ) :
    (operate settings methodsFile sessions services clock events).map (Host.seen k) =
      (operate settings methodsFile sessions services clock' (events.filter (·.1 == k))).map
        (Host.seen k) := by
  unfold operate
  dsimp only
  cases (Service.build settings methodsFile sessions services .empty).1 with
  | error e => rfl
  | ok s => exact congrArg Except.ok (Host.seen_run rfl clock clock' events)

/-- What is proved of all runs of a service holds of each attempt of a host. -/
theorem reachable_of_operate {settings : Settings} {methodsFile : Option String}
    {sessions : String → Option Authentication} {services : String → Option RegisteredService}
    {clock : ℕ → Time.Timestamp} {events : List (ℕ × Event)} {r : List Entry × Host}
    (h : operate settings methodsFile sessions services clock events = .ok r) :
    ∃ s : Service, s.Built ∧ r.2.Sound s := by
  unfold operate at h
  dsimp only at h
  cases hbuild : (Service.build settings methodsFile sessions services .empty).1 with
  | error e =>
      rw [hbuild] at h
      cases h
  | ok s =>
      rw [hbuild] at h
      cases h
      refine ⟨s, ⟨settings, methodsFile, sessions, services, .empty, hbuild⟩, ?_⟩
      exact Host.sound_run (fun k x hx => by cases hx) clock events

end StepUp
