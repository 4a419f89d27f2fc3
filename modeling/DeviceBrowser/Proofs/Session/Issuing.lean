import DeviceBrowser.Proofs.Session.Marker
import DeviceBrowser.Proofs.Text.Decimal
import Mathlib.Logic.Function.Basic

/-!
Markers do not hide in each other.

Callers that share a source read the clock first and take a number afterwards, and others may
come between the two.  Whatever the order, the markers they get are those of one caller who
asks for them one after another, at some readings of the clock; and a marker that stands
within another has its time and its number.
-/

namespace DeviceBrowser

open Text

namespace MarkerSource

def issueAll (source : MarkerSource) : List Clock → List String
  | [] => []
  | clock :: clocks =>
      let (marker, source) := source.issue clock
      marker :: source.issueAll clocks

/-- What one of several callers does next to get a marker. -/
inductive Turn where
  | readClock (caller : Nat) (clock : Clock)
  | takeNumber (caller : Nat)

/-- A source, and what those callers have read who have not taken a number since. -/
structure Shared where
  source : MarkerSource
  readings : Nat → Option Clock := fun _ => none

def Shared.step (shared : Shared) : Turn → Option String × Shared
  | .readClock caller clock =>
      (none, { shared with readings := Function.update shared.readings caller (some clock) })
  | .takeNumber caller =>
      match shared.readings caller with
      | none => (none, shared)
      | some clock =>
          let (marker, source) := shared.source.issue clock
          (some marker, ⟨source, Function.update shared.readings caller none⟩)

/-- The markers that callers get, in the order in which they take numbers. -/
def Shared.handOut (shared : Shared) : List Turn → List String
  | [] => []
  | turn :: turns =>
      let (marker, shared) := shared.step turn
      marker.toList ++ shared.handOut turns

/-- Callers who come between each other get what one caller gets who reads the clock in the
order of the numbers. -/
theorem Shared.exists_handOut_eq (shared : Shared) (turns : List Turn) :
    ∃ clocks, shared.handOut turns = shared.source.issueAll clocks := by
  induction turns generalizing shared with
  | nil => exact ⟨[], rfl⟩
  | cons turn turns inductionHypothesis =>
      cases turn with
      | readClock caller clock => exact inductionHypothesis _
      | takeNumber caller =>
          cases read : shared.readings caller with
          | none =>
              obtain ⟨clocks, later⟩ := inductionHypothesis shared
              refine ⟨clocks, ?_⟩
              simp only [handOut, step, read, later]
              rfl
          | some clock =>
              obtain ⟨clocks, later⟩ := inductionHypothesis
                ⟨(shared.source.issue clock).2, Function.update shared.readings caller none⟩
              refine ⟨clock :: clocks, ?_⟩
              simp only [handOut, step, read, issueAll, later]
              rfl

/-- The number in a marker is that of the source, and grows with every marker before it. -/
theorem exists_marker_of_issueAll {source : MarkerSource} {clocks : List Clock} {place : Nat}
    {issued : String} (got : (source.issueAll clocks)[place]? = some issued) :
    ∃ time, issued.toList = marker time (source.issued + UInt64.ofNat place).toNat := by
  induction clocks generalizing source place with
  | nil => simp [issueAll] at got
  | cons clock clocks inductionHypothesis =>
      cases place with
      | zero =>
          obtain rfl : (source.issue clock).1 = issued := by simpa [issueAll] using got
          refine ⟨(source.microseconds clock).toNat, ?_⟩
          simp [issue]
      | succ place =>
          have later : ((source.issue clock).2.issueAll clocks)[place]? = some issued := got
          obtain ⟨time, letters⟩ := inductionHypothesis later
          have number : source.issued + UInt64.ofNat (place + 1) =
              (source.issue clock).2.issued + UInt64.ofNat place := by
            simp only [issue, UInt64.ofNat_add, UInt64.ofNat_one]
            ac_rfl
          exact ⟨time, by rw [letters, number]⟩

theorem eq_of_marker_isInfix {time otherTime number otherNumber : Nat}
    (within : marker time number <:+: marker otherTime otherNumber) :
    time = otherTime ∧ number = otherNumber := by
  have unique : 'M' ∉ "ARK_".toList ++ decimal otherTime ++ '_' :: decimal otherNumber ++
      ['_', '_'] := letter_not_mem otherTime otherNumber
  rw [marker_eq, marker_eq] at within
  have begins := prefix_of_isInfix unique (Nat.le_refl _) within
  rw [List.prefix_append_right_inj, List.cons_prefix_cons] at begins
  simp only [List.append_assoc, List.cons_append, List.prefix_append_right_inj] at begins
  obtain ⟨sameTime, rest⟩ := eq_of_decimal_begins rfl rfl begins.2
  rw [List.cons_prefix_cons] at rest
  exact ⟨sameTime, (eq_of_decimal_begins rfl rfl rest.2).1⟩

theorem drop_marker_suffix {time number shift : Nat} (moved : 0 < shift)
    (overlaps : (marker time number).drop shift <+: marker time number) :
    (marker time number).drop shift <:+ ['_', '_'] := by
  have ends : ['_', '_'] <:+ marker time number :=
    ⟨"__MARK_".toList ++ decimal time ++ '_' :: decimal number, rfl⟩
  apply List.suffix_of_suffix_length_le (List.drop_suffix _ _) ends
  have short : ¬ shift + 2 < (marker time number).length := by
    intro long
    have unique : 'M' ∉ "ARK_".toList ++ decimal time ++ '_' :: decimal number ++ ['_', '_'] :=
      letter_not_mem time number
    have room : shift + ['_', '_'].length < (marker time number).length := long
    rw [marker_eq] at overlaps room
    exact not_prefix_of_unique unique moved room overlaps
  rw [List.length_drop, List.length_cons, List.length_singleton]
  omega

/-- Whatever the clock reads and however its callers come between each other, of the first 2^64
markers of a source none stands anywhere within another, and a marker that is moved along
itself meets itself again in its outer underscores only. -/
theorem markers_stand_apart (source : MarkerSource) (turns : List Turn) :
    (((Shared.handOut { source } turns).take UInt64.size).Pairwise fun one other =>
        ¬ one.toList <:+: other.toList ∧ ¬ other.toList <:+: one.toList) ∧
      ∀ one ∈ Shared.handOut { source } turns, ∀ shift, 0 < shift →
        one.toList.drop shift <+: one.toList → one.toList.drop shift <:+ ['_', '_'] := by
  obtain ⟨clocks, same⟩ := Shared.exists_handOut_eq { source } turns
  dsimp only at same
  rw [same]
  refine ⟨List.pairwise_iff_getElem.mpr ?_, ?_⟩
  · intro first second firstInside secondInside before
    simp only [List.length_take, UInt64.size] at firstInside secondInside
    obtain ⟨time, letters⟩ := exists_marker_of_issueAll
      (List.getElem?_eq_getElem (l := source.issueAll clocks) (i := first) (by omega))
    obtain ⟨otherTime, otherLetters⟩ := exists_marker_of_issueAll
      (List.getElem?_eq_getElem (l := source.issueAll clocks) (i := second) (by omega))
    have different : (source.issued + UInt64.ofNat first).toNat ≠
        (source.issued + UInt64.ofNat second).toNat := by
      simp only [UInt64.toNat_add, UInt64.toNat_ofNat']
      omega
    rw [List.getElem_take, List.getElem_take, letters, otherLetters]
    exact ⟨fun within => different (eq_of_marker_isInfix within).2,
      fun within => different (eq_of_marker_isInfix within).2.symm⟩
  · intro one present shift moved overlaps
    obtain ⟨place, got⟩ := List.mem_iff_getElem?.mp present
    obtain ⟨time, letters⟩ := exists_marker_of_issueAll got
    rw [letters] at overlaps ⊢
    exact drop_marker_suffix moved overlaps

-- The caller who read the clock last takes the first number.
example :
    Shared.handOut { source := ⟨0, 0, 0⟩ }
      [.readClock 1 ⟨0, 0, 5_000⟩, .readClock 2 ⟨0, 0, 7_000⟩, .takeNumber 2, .takeNumber 1] =
        ["__MARK_7_0__", "__MARK_5_1__"] := by
  decide +kernel

end MarkerSource

end DeviceBrowser
