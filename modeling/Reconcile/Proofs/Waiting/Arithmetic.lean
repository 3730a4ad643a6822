import Reconcile.Proofs.Ambient.Loaded
import Reconcile.Proofs.Lifecycle.Effect
import Reconcile.Proofs.Network.Regular

namespace Reconcile

namespace Duration

def limit : Duration := ofSecs (Nat.pow 2 64)

def doubled? (d : Duration) : Option Duration := if d * 2 < limit then some (d * 2) else none

def between? (now later : Duration) : Option Duration :=
  if now ≤ later ∧ later - now < limit then some (later - now) else none

end Duration

namespace Waiter

def deadline? (w : Waiter) (start : Duration) : Option Duration :=
  if start + w.timeout < lastMoment then some (start + w.timeout) else none

def nextInterval? (w : Waiter) (interval : Duration) : Option Duration :=
  (Duration.doubled? interval).map fun d => min d (max longestPause w.minInterval)

def poll? (w : Waiter) (start deadline : Duration) : List Reply → Duration → Operation → Phase →
    Session → Option (Except Failure Operation × Session)
  | replies, interval, op, before, s =>
      let s := w.noteChange op before s
      match op.phase with
      | .succeeded => some (w.succeed start op s)
      | .failed => some (w.fail op s)
      | phase =>
          if deadline ≤ s.now then some (w.giveUp start s)
          else do
            let left ← Duration.between? s.now deadline
            let s := s.pass (min interval left)
            if deadline ≤ s.now then some (w.giveUp start s)
            else
              match op.path? w.project with
              | none => some (.error (.transport none .unnamedOperation), s)
              | some path => do
                  let request := w.pollRequest path
                  let left ← Duration.between? s.now deadline
                  match replies with
                  | [] => some (.error Session.exhausted, s.record request)
                  | reply :: rest =>
                      match s.await left request reply rest with
                      | (none, s) => some (w.giveUp start s)
                      | (some answer, s) =>
                          match w.judge op answer s with
                          | .error ending => some ending
                          | .ok op => do
                              let interval ← w.nextInterval? interval
                              poll? w start deadline rest interval op phase s

def checked (w : Waiter) (op : Operation) (s : Session) :
    Option (Except Failure Operation × Session) := do
  let deadline ← w.deadline? s.now
  w.poll? s.now deadline s.replies w.minInterval op .submitted s

variable {w : Waiter} {start interval : Duration} {op : Operation} {before : Phase} {s : Session}

def Doubles (w : Waiter) : Prop := max longestPause w.minInterval * 2 < Duration.limit

theorem lastMoment_lt_limit : lastMoment < Duration.limit := by decide

theorem between?_eq {now later : Duration} (hlater : later < lastMoment) (h : ¬ later ≤ now) :
    Duration.between? now later = some (later - now) := by
  have hspan : later - now ≤ later := Nat.sub_le _ _
  exact if_pos ⟨Nat.le_of_not_le h,
    Nat.lt_of_le_of_lt hspan (Nat.lt_trans hlater lastMoment_lt_limit)⟩

theorem nextInterval?_eq (hw : w.Doubles) (h : interval ≤ max longestPause w.minInterval) :
    w.nextInterval? interval = some (w.nextInterval interval) := by
  have hfits : interval * 2 < Duration.limit :=
    Nat.lt_of_le_of_lt (Nat.mul_le_mul_right 2 h) hw
  rw [nextInterval?, Duration.doubled?, if_pos hfits]
  rfl

def Agrees (w : Waiter) (start : Duration) (replies : List Reply) : Prop :=
  ∀ interval op before s, interval ≤ max longestPause w.minInterval →
    w.poll? start (start + w.timeout) replies interval op before s =
      some (w.poll start replies interval op before s)

theorem Agrees.step {replies : List Reply} (hw : w.Doubles)
    (hshown : start + w.timeout < lastMoment)
    (hrest : ∀ reply rest, replies = reply :: rest → w.Agrees start rest) :
    w.Agrees start replies := by
  intro interval op before s hinterval
  rw [poll?.eq_def, poll.eq_def]
  rcases op.phase_cases with hs | hf | hp
  · simp only [hs]
  · simp only [hf]
  · simp only [hp]
    split
    · rfl
    · next hnow =>
      rw [between?_eq hshown hnow, Option.bind_eq_bind, Option.bind_some]
      split
      · rfl
      · next hthen =>
        rw [between?_eq hshown hthen]
        cases op.path? w.project with
        | none => rfl
        | some path =>
            cases replies with
            | nil => rfl
            | cons reply rest =>
                dsimp only
                rw [Option.bind_some]
                generalize Session.await _ _ _ reply rest = arrival
                obtain ⟨_ | answer, s⟩ := arrival
                · rfl
                · dsimp only
                  cases w.judge op answer s with
                  | error ending => rfl
                  | ok next =>
                      dsimp only
                      rw [nextInterval?_eq hw hinterval, Option.bind_some]
                      exact hrest reply rest rfl _ _ _ _ (Nat.min_le_right _ _)

theorem agrees (hw : w.Doubles) (hshown : start + w.timeout < lastMoment)
    (replies : List Reply) : w.Agrees start replies := by
  induction replies with
  | nil => exact .step hw hshown nofun
  | cons reply rest ih =>
      apply Agrees.step hw hshown
      rintro _ _ ⟨⟩
      exact ih

theorem checked_eq_wait? (hw : w.Doubles) (op : Operation) (s : Session) :
    w.checked op s = w.wait? op s := by
  unfold checked wait? deadline?
  split
  · next hshown => exact agrees hw hshown _ _ _ _ _ (Nat.le_max_right _ _)
  · rfl

theorem checked_eq_none_iff (hw : w.Doubles) :
    w.checked op s = none ↔ lastMoment ≤ s.now + w.timeout := by
  rw [checked_eq_wait? hw]
  unfold wait?
  split
  · next hshown => simp [Nat.not_le.2 hshown]
  · next hbeyond => simp [Nat.not_lt.1 hbeyond]

end Waiter

namespace Lifecycle

variable {σ : Type} {k : Kind σ} {c : Context} {r : Record σ} {s : Session}

theorem finish_overflowed_iff {w : Waiter} {answer : Json} :
    (finish w answer s).1 = .overflowed ↔
      ∃ op, Operation.ofAnswer answer = .ok op ∧ w.wait? op s = none := by
  unfold finish
  cases hop : Operation.ofAnswer answer with
  | error e => simp
  | ok op => cases hwait : w.wait? op s <;> simp [hwait]

theorem create_overflowed_iff :
    (create k c r s).ending = .overflowed ↔ ∃ p answer op s', plan k c r.state = .ok p ∧
      posted c p s = (.ok answer, s') ∧ Operation.ofAnswer answer = .ok op ∧
      (creation k c p).wait? op s' = none := by
  constructor
  · intro h
    have heffect := create_effect k c r s
    generalize create k c r s = o at heffect h
    cases heffect with
    | unplanned => cases h
    | refused => cases h
    | @overflowed p answer s' s'' hplan hpost hfinish =>
        have hover : (finish (creation k c p) answer s').1 = .overflowed := by rw [hfinish]
        obtain ⟨op, hop, hwait⟩ := finish_overflowed_iff.1 hover
        exact ⟨p, answer, op, s', hplan, hpost, hop, hwait⟩
    | unfinished => cases h
    | @finished p answer s' s'' =>
        rcases hydrate_outcome k c p.id r s'' with ⟨_, _, hending, _⟩ | ⟨_, hending, _⟩ |
          ⟨_, _, _, hending, _⟩ <;> rw [hending] at h <;> cases h
  · rintro ⟨p, answer, op, s', hplan, hpost, hop, hwait⟩
    rw [create_of_plan hplan, hpost]
    simp only [finish, hop, hwait]

theorem delete_overflowed_iff :
    (delete k c r s).ending = .overflowed ↔ ∃ id identity path answer op s', r.id = some id ∧
      Locates k id identity path ∧ removed c path s = (.ok answer, s') ∧
      Operation.ofAnswer answer = .ok op ∧ (deletion k c identity).wait? op s' = none := by
  constructor
  · intro h
    cases hid : r.id with
    | none =>
        rw [delete_of_no_id hid] at h
        cases h
    | some id =>
        have heffect := delete_effect (k := k) (c := c) (s := s) hid
        generalize delete k c r s = o at heffect h
        cases heffect with
        | @overflowed identity path answer s' s'' hlocates hremoved hfinish =>
            have hover : (finish (deletion k c identity) answer s').1 = .overflowed := by
              rw [hfinish]
            obtain ⟨op, hop, hwait⟩ := finish_overflowed_iff.1 hover
            exact ⟨id, identity, path, answer, op, s', rfl, hlocates, hremoved, hop, hwait⟩
        | _ => cases h
  · rintro ⟨id, identity, path, answer, op, s', hid, hlocates, hremoved, hop, hwait⟩
    rw [delete_of_locates hid hlocates, hremoved]
    simp only [finish, hop, hwait]

theorem waiter_doubles (f : Family) {settings : Settings} (h : settings.InRange)
    (defaults : Defaults) (identity : Fields) (verb : String) (usual : Duration) :
    (waiter f.kind (settings.context defaults) identity verb usual).Doubles := by
  have hlongest : Waiter.longestPause * 2 < Duration.limit := by decide
  have hpause : settings.pollInterval.getD f.kind.minPollInterval * 2 < Duration.limit := by
    unfold Settings.pollInterval
    cases hn : settings.pollIntervalMs with
    | none => cases f <;> decide
    | some n =>
        have hle : Duration.ofMillis n ≤ Duration.ofMillis Json.maxSignificand :=
          Nat.mul_le_mul_right _ (h.pause n hn)
        exact Nat.lt_of_le_of_lt (Nat.mul_le_mul_right 2 hle) (by decide)
  show max Waiter.longestPause (settings.pollInterval.getD f.kind.minPollInterval) * 2 < _
  rw [Nat.max_def]
  split
  · exact hpause
  · exact hlongest

/-- With whatever settings a machine holds, for both kinds, a wait goes as it would in checked
arithmetic, and a step of this leaves its range exactly when the clock cannot show the deadline.
This, after an insert or a delete that the server accepted, is how a call ends without a result. -/
theorem configured_arithmetic_iff (f : Family) (a : Ambient) (said : Defaults) :
    let settings := (Settings.load a).1
    let c := settings.context (settings.defaults a said)
    (∀ identity verb usual op s,
      let w := waiter f.kind c identity verb usual
      w.checked op s = w.wait? op s ∧
      (w.checked op s = none ↔
        Waiter.lastMoment ≤ s.now + settings.operationTimeout.getD usual)) ∧
    (∀ r s, (create f.kind c r s).ending = .overflowed ↔
      ∃ p answer op s', plan f.kind c r.state = .ok p ∧ posted c p s = (.ok answer, s') ∧
        Operation.ofAnswer answer = .ok op ∧
        Waiter.lastMoment ≤ s'.now + settings.operationTimeout.getD f.kind.createTimeout) ∧
    ∀ r s, (delete f.kind c r s).ending = .overflowed ↔
      ∃ id identity path answer op s', r.id = some id ∧ Locates f.kind id identity path ∧
        removed c path s = (.ok answer, s') ∧ Operation.ofAnswer answer = .ok op ∧
        Waiter.lastMoment ≤ s'.now + settings.operationTimeout.getD f.kind.deleteTimeout := by
  intro settings c
  have hwaits : ∀ identity verb usual op s,
      let w := waiter f.kind c identity verb usual
      w.checked op s = w.wait? op s ∧
      (w.checked op s = none ↔
        Waiter.lastMoment ≤ s.now + settings.operationTimeout.getD usual) := by
    intro identity verb usual op s
    have hw : (waiter f.kind c identity verb usual).Doubles :=
      waiter_doubles f (Settings.inRange_load a) _ _ _ _
    exact ⟨Waiter.checked_eq_wait? hw op s, Waiter.checked_eq_none_iff hw⟩
  have hover : ∀ identity verb usual op s,
      (waiter f.kind c identity verb usual).wait? op s = none ↔
        Waiter.lastMoment ≤ s.now + settings.operationTimeout.getD usual := by
    intro identity verb usual op s
    obtain ⟨heq, hnone⟩ := hwaits identity verb usual op s
    rw [← heq]
    exact hnone
  refine ⟨hwaits, ?_, ?_⟩
  · intro r s
    simp only [create_overflowed_iff, creation, hover]
  · intro r s
    simp only [delete_overflowed_iff, deletion, hover]

namespace Unending

def text : String := "\x7b\"operation_timeout_secs\":18446744073709551615\x7d"

def ambient : Ambient :=
  ⟨[("XDG_CONFIG_HOME", "/xdg")], fun path =>
    if path = "/xdg/gcpsync/config.json" then .bytes text.toUTF8.toList else .missing⟩

def settings : Settings :=
  { Settings.blank with operationTimeoutSecs := some 18446744073709551615 }

def context : Context := settings.context (settings.defaults ambient ⟨some "p1", none, none⟩)

def route : Route :=
  { Route.blank with
    name := "to-nat", destRange := "0.0.0.0/0", network := "default"
    nextHopIp := some "10.0.0.1" }

def accepted : Json := .obj [("name", .str "op-1"), ("status", .str "DONE")]

def session : Session := .start [.ok 0 accepted] fun n => ⟨n⟩

def handle : Operation := { Operation.blank with name := "op-1", status := .done }

def planned : Plan :=
  ⟨[("name", "to-nat"), ("project", "p1")],
    ⟨[("destRange", .str "0.0.0.0/0"), ("name", .str "to-nat"),
      ("network", .str "projects/p1/global/networks/default"), ("nextHopIp", .str "10.0.0.1")]⟩,
    "p1/to-nat", "projects/p1/global/routes"⟩

/-- These settings are taken from their file as they are. The insert is accepted and done at once,
but the deadline is beyond the clock. -/
theorem longest_timeout_overflows :
    (Settings.load ambient).1 = settings ∧ plan Route.kind context route = .ok planned ∧
    (posted context planned session).1 = .ok accepted ∧
    Operation.ofAnswer accepted = .ok handle ∧
    (creation Route.kind context planned).checked handle (posted context planned session).2 =
      none ∧
    (create Route.kind context ⟨none, route⟩ session).ending = .overflowed :=
  ⟨by decide +kernel, by rfl, by rfl, by rfl, by rfl, by rfl⟩

end Unending

end Lifecycle

end Reconcile
