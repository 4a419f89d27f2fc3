import DeviceBrowser.Proofs.Text.Search
import DeviceBrowser.Proofs.Text.Utf8
import DeviceBrowser.Session.Marker

/-!
Where a marker can be found in what a shell prints.

A marker begins and ends with two underscores, so it overlaps itself in these; but the
letter after the first two occurs in it only once.  That is why an output which does not
contain the stem of a marker, the marker without its last two underscores, ends exactly
where the marker is found first.
-/

namespace DeviceBrowser.MarkerSource

open Text

/-- A marker without the two underscores at its end. -/
def stem (marker : String) : List UInt8 :=
  (Utf8.encode marker.toList).dropLast.dropLast

theorem marker_eq (microseconds number : Nat) :
    marker microseconds number =
      ['_', '_'] ++ 'M' :: ("ARK_".toList ++ decimal microseconds ++ '_' :: decimal number
        ++ ['_', '_']) := by
  unfold marker
  generalize decimal microseconds = first
  generalize decimal number = second
  rfl

/-- The letter after the first two underscores occurs in a marker only there. -/
theorem letter_not_mem (time number : Nat) :
    'M' ∉ "ARK_".toList ++ decimal time ++ '_' :: decimal number ++ ['_', '_'] := by
  have digits : ∀ n, 'M' ∉ decimal n := fun n present =>
    absurd (Nat.isDigit_of_mem_toDigits (by decide) (by decide) present) (by decide)
  simp [digits]

theorem encode_issue (source : MarkerSource) (clock : Clock) :
    ∃ tail, Utf8.encode (source.issue clock).1.toList =
        ([0x5F, 0x5F] ++ 0x4D :: tail) ++ [0x5F, 0x5F] ∧ 0x4D ∉ tail ++ [0x5F, 0x5F] := by
  have letters : (source.issue clock).1.toList =
      marker (source.microseconds clock).toNat source.issued.toNat := String.toList_ofList
  rw [marker_eq] at letters
  generalize (source.microseconds clock).toNat = time at letters
  generalize source.issued.toNat = number at letters
  have absent := letter_not_mem time number
  generalize "ARK_".toList ++ decimal time ++ '_' :: decimal number = inner at letters absent
  have ends : Utf8.encode ['_', '_'] = [0x5F, 0x5F] := rfl
  refine ⟨Utf8.encode inner, ?_, ?_⟩
  · calc
      _ = Utf8.encode ['_', '_'] ++ (String.utf8EncodeChar 'M' ++
          (Utf8.encode inner ++ Utf8.encode ['_', '_'])) := by
        simp only [letters, Utf8.encode_append, Utf8.encode_cons]
      _ = _ := by
        rw [ends]
        rfl
  · intro member
    rw [← ends, ← Utf8.encode_append] at member
    exact absent (Utf8.ofNat_mem_of_mem_encode member (by decide))

theorem encode_issue_ne_nil (source : MarkerSource) (clock : Clock) :
    Utf8.encode (source.issue clock).1.toList ≠ [] := by
  obtain ⟨tail, shape, _⟩ := source.encode_issue clock
  simp [shape]

/-- A marker is found first where an output without its stem ends. -/
theorem firstIndex?_issue (source : MarkerSource) (clock : Clock) {output : List UInt8}
    (clear : ¬ stem (source.issue clock).1 <:+: output) (rest : List UInt8) :
    firstIndex? (Utf8.encode (source.issue clock).1.toList)
        (output ++ (Utf8.encode (source.issue clock).1.toList ++ rest)) =
      some output.length := by
  obtain ⟨tail, shape, unique⟩ := source.encode_issue clock
  have trimmed : (([0x5F, 0x5F] ++ 0x4D :: tail) ++ [0x5F, 0x5F]).dropLast.dropLast =
      [0x5F, 0x5F] ++ 0x4D :: tail := by
    rw [List.dropLast_append_cons]
    exact List.dropLast_concat
  rw [stem, shape, trimmed] at clear
  have split : ([0x5F, 0x5F] ++ 0x4D :: tail) ++ [0x5F, 0x5F] =
      [0x5F, 0x5F] ++ 0x4D :: (tail ++ [0x5F, 0x5F]) := rfl
  rw [shape, split]
  apply firstIndex?_append_unique unique rest
  rintro ⟨before, after, occurs⟩
  refine clear (List.IsInfix.trans ⟨before, [], List.append_nil _⟩ (List.IsPrefix.isInfix ?_))
  have start : before ++ ([0x5F, 0x5F] ++ 0x4D :: tail) <+: output ++ [0x5F, 0x5F] :=
    ⟨[0x5F, 0x5F] ++ after, by simpa using occurs⟩
  have sizes := congrArg List.length occurs
  simp only [List.length_append, List.length_cons, List.length_nil] at sizes
  apply List.prefix_of_prefix_length_le start (List.prefix_append _ _)
  simp only [List.length_append, List.length_cons, List.length_nil]
  omega

end DeviceBrowser.MarkerSource
