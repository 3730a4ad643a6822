import Reconcile.Operation
import Reconcile.Session

namespace Reconcile

namespace Session

/-- Sends a request and waits for its reply, `left` at most. A reply that comes in the last moment
counts. -/
def await (s : Session) (left : Duration) (r : Request) (reply : Reply) (rest : List Reply) :
    Option (Except Failure Json) × Session :=
  let s := { s.record r with replies := rest }
  if reply.delay ≤ left then (some (reply.answer r), s.pass reply.delay)
  else (none, s.pass left)

end Session

structure Waiter where
  context : Context
  project : String
  description : String
  timeout : Duration
  minInterval : Duration
  deriving DecidableEq, Repr

namespace Waiter

def longestPause : Duration := Duration.ofSecs 10

def nextInterval (w : Waiter) (interval : Duration) : Duration :=
  min (interval * 2) (max longestPause w.minInterval)

def noteChange (w : Waiter) (op : Operation) (before : Phase) (s : Session) : Session :=
  if op.phase = before then s
  else
    s.note .debug (w.description ++ ": operation " ++ Text.quoted op.name ++ " " ++
      before.text ++ " -> " ++ op.phase.text)

def succeed (w : Waiter) (start : Duration) (op : Operation) (s : Session) :
    Except Failure Operation × Session :=
  (.ok op, s.note .info (w.description ++ ": " ++ op.operationType.getD "operation" ++
    " done in " ++ Duration.text (s.now - start)))

def fail (w : Waiter) (op : Operation) (s : Session) : Except Failure Operation × Session :=
  let faults := op.error.getD []
  (.error (.operation faults), s.note .error (w.description ++ ": " ++ Fault.summary faults))

def giveUp (w : Waiter) (start : Duration) (s : Session) : Except Failure Operation × Session :=
  let elapsed := s.now - start
  (.error (.timeout w.description elapsed),
    s.note .warn (w.description ++ ": gave up after " ++ Duration.text elapsed ++
      ", remote state unknown"))

def vanished (w : Waiter) (op : Operation) (s : Session) : Except Failure Operation × Session :=
  (.error (.transport (some 404) (.vanishedOperation op.name)),
    s.note .error (w.description ++ ": operation " ++ Text.quoted op.name ++
      " disappeared while polling"))

def judge (w : Waiter) (op : Operation) (answer : Except Failure Json) (s : Session) :
    Except (Except Failure Operation × Session) Operation :=
  match answer with
  | .error e => .error (if e.isNotFound then w.vanished op s else (.error e, s))
  | .ok body =>
      match Operation.ofAnswer body with
      | .error e => .error (.error e, s)
      | .ok op => .ok op

def pollRequest (w : Waiter) (path : String) : Request := ⟨.get, w.context.url path, none⟩

def poll (w : Waiter) (start : Duration) :
    List Reply → Duration → Operation → Phase → Session → Except Failure Operation × Session
  | replies, interval, op, before, s =>
      let s := w.noteChange op before s
      let deadline := start + w.timeout
      match op.phase with
      | .succeeded => w.succeed start op s
      | .failed => w.fail op s
      | phase =>
          if deadline ≤ s.now then w.giveUp start s
          else
            let s := s.pass (min interval (deadline - s.now))
            if deadline ≤ s.now then w.giveUp start s
            else
              match op.path? w.project with
              | none => (.error (.transport none .unnamedOperation), s)
              | some path =>
                  let request := w.pollRequest path
                  match replies with
                  | [] => (.error Session.exhausted, s.record request)
                  | reply :: rest =>
                      match s.await (deadline - s.now) request reply rest with
                      | (none, s) => w.giveUp start s
                      | (some answer, s) =>
                          match w.judge op answer s with
                          | .error ending => ending
                          | .ok op => poll w start rest (w.nextInterval interval) op phase s

def wait (w : Waiter) (op : Operation) (s : Session) : Except Failure Operation × Session :=
  w.poll s.now s.replies w.minInterval op .submitted s

/-- The last moment that the clock can show. -/
def lastMoment : Duration := Duration.ofSecs (Nat.pow 2 63)

/-- Waits only if the clock can show the deadline. -/
def wait? (w : Waiter) (op : Operation) (s : Session) :
    Option (Except Failure Operation × Session) :=
  if s.now + w.timeout < lastMoment then some (w.wait op s) else none

section

variable {w : Waiter} {op : Operation} {s : Session} {o : Except Failure Operation × Session}

theorem wait?_of_shown (h : s.now + w.timeout < lastMoment) : w.wait? op s = some (w.wait op s) :=
  if_pos h

theorem wait?_of_beyond (h : ¬ s.now + w.timeout < lastMoment) : w.wait? op s = none :=
  if_neg h

theorem wait?_eq_some_iff :
    w.wait? op s = some o ↔ s.now + w.timeout < lastMoment ∧ w.wait op s = o := by
  by_cases h : s.now + w.timeout < lastMoment
  · simp [wait?_of_shown, h]
  · simp [wait?_of_beyond, h]

theorem exists_wait?_iff {result : Except Failure Operation} :
    (∃ s', w.wait? op s = some (result, s')) ↔
      s.now + w.timeout < lastMoment ∧ (w.wait op s).1 = result := by
  constructor
  · rintro ⟨s', h⟩
    obtain ⟨hshown, hwait⟩ := wait?_eq_some_iff.1 h
    exact ⟨hshown, congrArg Prod.fst hwait⟩
  · rintro ⟨hshown, rfl⟩
    exact ⟨(w.wait op s).2, wait?_of_shown hshown⟩

end

end Waiter

end Reconcile
