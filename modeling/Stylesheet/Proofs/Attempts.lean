import Stylesheet.Report

/-!
# Attempts to announce one failure

A failure may be announced in any number of steps, and some of them may fail because their message
cannot be made. What is known of the failure then depends on the steps that were taken alone: their
texts are kept and were sent in this order, and the first of them that points somewhere has set the
line and the column (`Announcement.Follows`). One attempt keeps this up
(`Announcement.Follows.attempt`), so it holds after any number of them.

The message of a step is made before the step changes anything, so one that fails leaves everything
as it was (`Announcement.attempt_of_error`). A run with such a step then comes to what it comes to
without the step, but for the one result that is the step's own (`Announcement.attempts_follow`).
How a message is made from a template and its arguments does not matter for any of this.
-/

namespace Stylesheet

variable {α ε : Type} (format : String → List α → Except ε String) (text : List Char)

namespace Step

/-- What the step tells, or why it cannot. -/
def tell : Step α → Except ε String
  | point offset template arguments =>
    (Notice.ofTemplate format text offset template arguments).map Notice.toText
  | note n => .ok n

/-- The text that the step sends, if it can be taken. -/
def text? (s : Step α) : Option String :=
  (s.tell format text).toOption

/-- The offset that the step points at, if it points anywhere and can be taken. -/
def target? : Step α → Option Int
  | point offset template arguments =>
    (Notice.ofTemplate format text offset template arguments).toOption.map fun _ => offset
  | note _ => none

variable {format text}

theorem target?_of_error {s : Step α} {fault : ε} (h : s.tell format text = .error fault) :
    s.target? format text = none := by
  rcases s with ⟨offset, template, arguments⟩ | n
  · rcases hn : Notice.ofTemplate format text offset template arguments with e | n <;>
      rw [tell, hn] at h <;> cases h
    rw [target?, hn]
    rfl
  · rfl

end Step

namespace Announcement

/-- What the announcement has become when all of these steps were attempted. -/
def after (a : Announcement) (steps : List (Step α)) : Announcement :=
  steps.foldl (fun a s => (attempt format text a s).1) a

/-- The announcement of this failure after these steps: the failure is the same, and of the steps
it shows those that could be taken. -/
structure Follows (f : Failure) (steps : List (Step α)) (a : Announcement) : Prop where
  cause : a.report.cause = f.cause
  offset : a.report.offset = f.offset
  texts : a.report.texts = a.sent
  sent : a.sent = steps.filterMap (Step.text? format text)
  line : a.report.line = (steps.findSome? (Step.target? format text)).map
    fun offset => ((Location.ofOffset text offset).line : Int)
  column : a.report.column = (steps.findSome? (Step.target? format text)).map
    fun offset => ((Location.ofOffset text offset).column : Int)

/-- The announcement settled at the offset that a step points at, if it points anywhere. -/
def settleAt (target : Option Int) (a : Announcement) : Announcement :=
  match target with
  | none => a
  | some offset =>
    a.settle (Location.ofOffset text offset).line (Location.ofOffset text offset).column

variable {format text}

/-! ## One attempt -/

section Attempt

variable {a : Announcement} {s : Step α}

/-- A step that fails has done nothing by then. -/
theorem attempt_of_error {fault : ε} (h : s.tell format text = .error fault) :
    attempt format text a s = (a, some fault) := by
  rcases s with ⟨offset, template, arguments⟩ | n
  · rcases hn : Notice.ofTemplate format text offset template arguments with e | n <;>
      rw [Step.tell, hn] at h <;> cases h
    rw [attempt, step, hn]
    rfl
  · cases h

/-- A step that is taken sets the place if no other step has done so, and sends its text. -/
theorem attempt_of_ok {t : String} (h : s.tell format text = .ok t) :
    attempt format text a s
      = (send t (keep t (settleAt text (s.target? format text) a)), none) := by
  rcases s with ⟨offset, template, arguments⟩ | n
  · rcases hn : Notice.ofTemplate format text offset template arguments with e | n <;>
      rw [Step.tell, hn] at h <;> cases h
    rw [attempt, step, Step.target?, hn, Notice.eq_point_of_ofTemplate hn]
    rfl
  · cases h
    rfl

theorem attempt_eq_some {fault : ε} :
    (attempt format text a s).2 = some fault ↔ s.tell format text = .error fault := by
  rcases h : s.tell format text with e | t
  · simp [attempt_of_error h]
  · simp [attempt_of_ok h]

/-- A place is settled by the first offset that was pointed at, and then it stays. -/
theorem Follows.line_settleAt {f : Failure} {steps : List (Step α)}
    (h : a.Follows format text f steps) (target : Option Int) :
    (settleAt text target a).report.line
        = ((steps.findSome? (Step.target? format text)).or target).map
            (fun offset => ((Location.ofOffset text offset).line : Int)) ∧
      (settleAt text target a).report.column
        = ((steps.findSome? (Step.target? format text)).or target).map
            (fun offset => ((Location.ofOffset text offset).column : Int)) := by
  obtain ⟨-, -, -, -, hline, hcolumn⟩ := h
  rcases hf : steps.findSome? (Step.target? format text) with _ | first <;>
    rw [hf] at hline hcolumn <;>
    rcases target with _ | offset <;>
    simp [settleAt, settle, hline, hcolumn]

theorem sameBut_settleAt (text : List Char) (a : Announcement) (target : Option Int) :
    (settleAt text target a).report.cause = a.report.cause ∧
      (settleAt text target a).report.offset = a.report.offset ∧
      (settleAt text target a).report.texts = a.report.texts ∧
      (settleAt text target a).sent = a.sent := by
  rcases target with _ | offset
  · exact ⟨rfl, rfl, rfl, rfl⟩
  · simp only [settleAt, settle]
    split <;> exact ⟨rfl, rfl, rfl, rfl⟩

theorem Follows.attempt {f : Failure} {steps : List (Step α)} (h : a.Follows format text f steps)
    (s : Step α) : (attempt format text a s).1.Follows format text f (steps ++ [s]) := by
  rcases hs : s.tell format text with e | t
  · have htext : s.text? format text = none := by rw [Step.text?, hs]; rfl
    have htarget := Step.target?_of_error hs
    rw [attempt_of_error hs]
    refine ⟨h.cause, h.offset, h.texts, ?_, ?_, ?_⟩
    · simpa [List.filterMap_append, htext] using h.sent
    · simpa [List.findSome?_append, htarget] using h.line
    · simpa [List.findSome?_append, htarget] using h.column
  · have htext : s.text? format text = some t := by rw [Step.text?, hs]; rfl
    obtain ⟨hcause, hoffset, htexts, hsent⟩ :=
      sameBut_settleAt text a (s.target? format text)
    obtain ⟨hline, hcolumn⟩ := h.line_settleAt (s.target? format text)
    rw [attempt_of_ok hs]
    refine ⟨hcause.trans h.cause, hoffset.trans h.offset, ?_, ?_, ?_, ?_⟩
    · simp [send, keep, htexts, hsent, h.texts]
    · simp [send, keep, hsent, h.sent, List.filterMap_append, htext]
    · simpa [send, keep, List.findSome?_append] using hline
    · simpa [send, keep, List.findSome?_append] using hcolumn

end Attempt

/-! ## A run -/

section Run

variable (format text)

theorem follows_start (f : Failure) : (start f.report).Follows format text f [] :=
  ⟨rfl, rfl, rfl, rfl, rfl, rfl⟩

variable {format text}

theorem Follows.after {f : Failure} {a : Announcement} :
    ∀ {past : List (Step α)} (steps : List (Step α)), a.Follows format text f past →
      (a.after format text steps).Follows format text f (past ++ steps)
  | past, [], h => by rwa [List.append_nil]
  | past, s :: steps, h => by
    have hnext := (h.attempt s).after steps
    rwa [List.append_assoc, List.singleton_append] at hnext

theorem length_attempts : ∀ (a : Announcement) (steps : List (Step α)),
    (attempts format text a steps).length = steps.length
  | _, [] => rfl
  | a, s :: steps => congrArg (· + 1) (length_attempts (attempt format text a s).1 steps)

theorem attempts_append : ∀ (a : Announcement) (past steps : List (Step α)),
    attempts format text a (past ++ steps)
      = attempts format text a past ++ attempts format text (a.after format text past) steps
  | _, [], _ => rfl
  | a, s :: past, steps =>
    congrArg (attempt format text a s :: ·) (attempts_append (attempt format text a s).1 past steps)

end Run

variable (format text)

/-- Whatever is attempted for a failure, after each attempt its announcement shows the steps taken
by then and nothing else, and an attempt that fails might as well not have been made. -/
theorem attempts_follow (f : Failure) (past : List (Step α)) (s : Step α)
    (future : List (Step α)) :
    ∃ a fault?,
      (attempts format text (start f.report) (past ++ s :: future))[past.length]?
        = some (a, fault?) ∧
      a.Follows format text f (past ++ [s]) ∧
      (∀ fault, fault? = some fault ↔ s.tell format text = .error fault) ∧
      (fault?.isSome → a = (start f.report).after format text past ∧
        (attempts format text (start f.report) (past ++ s :: future)).eraseIdx past.length
          = attempts format text (start f.report) (past ++ future)) := by
  let before := (start f.report).after format text past
  have hbefore : before.Follows format text f past := by
    simpa using (follows_start format text f).after past
  have hlen : (attempts format text (start f.report) past).length = past.length :=
    length_attempts _ past
  have hruns : attempts format text (start f.report) (past ++ s :: future)
      = attempts format text (start f.report) past
        ++ attempt format text before s :: attempts format text (attempt format text before s).1
          future :=
    attempts_append _ past (s :: future)
  refine ⟨(attempt format text before s).1, (attempt format text before s).2, ?_,
    hbefore.attempt s, fun fault => attempt_eq_some, fun hf => ?_⟩
  · rw [hruns, ← hlen, List.getElem?_append_right (Nat.le_refl _), Nat.sub_self,
      List.getElem?_cons_zero]
  · obtain ⟨fault, hfault⟩ := Option.isSome_iff_exists.1 hf
    have hkept : attempt format text before s = (before, some fault) :=
      attempt_of_error (attempt_eq_some.1 hfault)
    refine ⟨congrArg Prod.fst hkept, ?_⟩
    rw [hruns, ← hlen, List.eraseIdx_append_of_length_le (Nat.le_refl _), Nat.sub_self,
      List.eraseIdx_cons_zero, hkept]
    exact (attempts_append _ past future).symm

end Announcement

end Stylesheet
