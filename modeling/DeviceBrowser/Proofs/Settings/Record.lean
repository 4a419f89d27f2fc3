import DeviceBrowser.Settings.Document
import Mathlib.Data.List.Forall2

/-!
Records that are read alike.

Where each member of a record reads what the same member of another reads, and only keeps it
in another form, the two records are read alike as a whole: from the same text, with the same
fault or with the same text left.
-/

namespace DeviceBrowser.Settings.Document

variable {Rich Plain : Type} {view : Rich → Plain}

def viewed (view : Rich → Plain) (read : Except Fault (Rich × List Char)) :
    Except Fault (Plain × List Char) :=
  read.map fun (record, rest) => (view record, rest)

/-- A member reads into the view of a record what another one reads into the record. -/
structure Mirrors (view : Rich → Plain) (member : Member Rich) (image : Member Plain) : Prop where
  name_eq : image.name = member.name
  read_eq : ∀ record text, image.read (view record) text = viewed view (member.read record text)

variable {Value : Type} {members : List (Member Rich)} {images : List (Member Plain)}

theorem viewed_bind {first : Except Fault Value} {next : Value → Except Fault (Rich × List Char)}
    {nextViewed : Value → Except Fault (Plain × List Char)}
    (same : ∀ value, nextViewed value = viewed view (next value)) :
    (first >>= nextViewed) = viewed view (first >>= next) := by
  cases first with
  | error fault => rfl
  | ok value => exact same value

theorem Mirrors.read_bind {member : Member Rich} {image : Member Plain}
    (mirrors : Mirrors view member image)
    {next : Rich × List Char → Except Fault (Rich × List Char)}
    {nextViewed : Plain × List Char → Except Fault (Plain × List Char)}
    (same : ∀ record rest, nextViewed (view record, rest) = viewed view (next (record, rest)))
    (record : Rich) (text : List Char) :
    (image.read (view record) text >>= nextViewed) =
      viewed view (member.read record text >>= next) := by
  rw [mirrors.read_eq]
  cases member.read record text with
  | error fault => rfl
  | ok value => exact same value.1 value.2

theorem readElements_viewed (mirrored : List.Forall₂ (Mirrors view) members images)
    (record : Rich) (isFirst : Bool) (text : List Char) :
    readElements (view record) isFirst images text =
      viewed view (readElements record isFirst members text) := by
  induction mirrored generalizing record isFirst text with
  | nil =>
      unfold readElements
      split <;> rfl
  | @cons member image members images mirrors _ inductionHypothesis =>
      have continued (text : List Char) :
          (do
            let (record, rest) ← image.read (view record) text
            readElements record false images rest) =
          viewed view (do
            let (record, rest) ← member.read record text
            readElements record false members rest) :=
        mirrors.read_bind (fun record rest => inductionHypothesis record false rest) record text
      unfold readElements
      split
      next => rfl
      next => rfl
      next c rest _ _ =>
        -- Where the element starts depends on the text alone.
        cases isFirst with
        | true => exact continued (c :: rest)
        | false =>
            cases c == ',' with
            | false => rfl
            | true =>
                simp only [if_true, Bool.false_eq_true, if_false]
                split
                next => rfl
                next => rfl
                next => exact continued _

theorem find?_mirrored (mirrored : List.Forall₂ (Mirrors view) members images) (name : String) :
    Option.Rel (Mirrors view) (members.find? (·.name == name)) (images.find? (·.name == name)) := by
  induction mirrored with
  | nil => exact .none
  | @cons member image members images mirrors _ inductionHypothesis =>
      rw [List.find?_cons, List.find?_cons, mirrors.name_eq]
      split
      next => exact .some mirrors
      next => exact inductionHypothesis

theorem readMembers_viewed (mirrored : List.Forall₂ (Mirrors view) members images)
    (fuel : Nat) (isFirst : Bool) (seen : List String) (record : Rich) (text : List Char) :
    readMembers images fuel isFirst seen (view record) text =
      viewed view (readMembers members fuel isFirst seen record text) := by
  induction fuel generalizing isFirst seen record text with
  | zero => rfl
  | succ fuel inductionHypothesis =>
      unfold readMembers
      apply viewed_bind
      rintro (_ | rest)
      · rfl
      apply viewed_bind
      rintro ⟨name, rest⟩
      dsimp only
      have found := find?_mirrored mirrored (String.ofList name)
      generalize members.find? (·.name == String.ofList name) = member at found
      generalize images.find? (·.name == String.ofList name) = image at found
      cases found with
      | none =>
          apply viewed_bind
          intro value
          apply viewed_bind
          intro rest
          exact inductionHypothesis false seen record rest
      | some mirrors =>
          dsimp only
          split
          next => rfl
          next =>
            apply viewed_bind
            intro rest
            refine mirrors.read_bind ?_ record rest
            intro record rest
            exact inductionHypothesis false _ record rest

theorem readRecord_viewed (mirrored : List.Forall₂ (Mirrors view) members images)
    (default : Rich) (text : List Char) :
    readRecord images (view default) text = viewed view (readRecord members default text) := by
  unfold readRecord
  split
  next => exact readElements_viewed mirrored default true _
  next => exact readMembers_viewed mirrored _ true [] default _
  next => rfl

/-- A document of one record is the view of the document that the other record is read from. -/
theorem read_viewed (mirrored : List.Forall₂ (Mirrors view) members images)
    (default : Rich) (text : List Char) :
    read images (view default) text = (read members default text).map view := by
  unfold read
  rw [readRecord_viewed mirrored]
  cases readRecord members default text with
  | error fault => rfl
  | ok value =>
      change (if _ then _ else _) = Except.map view (if _ then _ else _)
      split <;> rfl

end DeviceBrowser.Settings.Document
