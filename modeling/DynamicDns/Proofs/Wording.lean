import DynamicDns.DigitalOcean.Answer
import DynamicDns.Namecheap.Answer
import DynamicDns.Proofs.Field
import DynamicDns.Proofs.OneLine

/-!
# The wording of problems

A decoder that finds data of the wrong shape says what it found and what it expected. Names and
expectations are its own, and what it found is quoted or written anew, so the report is one line whatever
the data. Each decoder has this from its parts.
-/

namespace DynamicDns

open DynamicDns.Result
open Text

/-! ## Problems -/

namespace Problem

def KeepsLine (p : Problem) : Prop := IsOneLine p.message

instance (p : Problem) : Decidable p.KeepsLine := inferInstanceAs (Decidable (IsOneLine p.message))

theorem keepsLine_malformed : malformed.KeepsLine := by decide

/-- A check of the form has nothing to quote when it fails. -/
theorem keepsLine_check (c : Prop) [Decidable c] :
    ErrorsAre KeepsLine (if c then .ok () else .error malformed) := by
  split_ifs
  · exact errorsAre_ok ()
  · exact errorsAre_error keepsLine_malformed

variable {name expected : String}

theorem keepsLine_wrongType (hexpected : IsOneLine expected) (found : Found) :
    (mismatch (.wrongType found expected)).KeepsLine :=
  ((IsOneLine.append (by decide) found.isOneLine_text).append (by decide)).append hexpected

theorem keepsLine_wrongValue (hexpected : IsOneLine expected) (found : Found) :
    (mismatch (.wrongValue found expected)).KeepsLine :=
  ((IsOneLine.append (by decide) found.isOneLine_text).append (by decide)).append hexpected

theorem keepsLine_wrongLength (hexpected : IsOneLine expected) (length : Nat) :
    (mismatch (.wrongLength length expected)).KeepsLine :=
  ((IsOneLine.append (by decide) (isOneLine_decimal length)).append (by decide)).append hexpected

theorem keepsLine_missingField (hname : IsOneLine name) :
    (mismatch (.missingField name)).KeepsLine :=
  (IsOneLine.append (by decide) hname).append (by decide)

theorem keepsLine_duplicateField (hname : IsOneLine name) :
    (mismatch (.duplicateField name)).KeepsLine :=
  (IsOneLine.append (by decide) hname).append (by decide)

end Problem

/-! ## Decoders of JSON -/

namespace Json

open Problem (KeepsLine)

namespace Tree

variable {α : Type} {owner name expected : String} {decode : Tree → Decoded α}

theorem keepsLine_unexpected (hexpected : IsOneLine expected) (t : Tree) :
    (t.unexpected expected).KeepsLine := by
  unfold unexpected
  split
  · exact Problem.keepsLine_wrongType hexpected _
  · exact Problem.keepsLine_malformed

theorem keepsLine_skip (t : Tree) : ErrorsAre KeepsLine t.skip := Problem.keepsLine_check _

theorem keepsLine_checkClosed (ending : Ending) : ErrorsAre KeepsLine (checkClosed ending) :=
  Problem.keepsLine_check _

theorem keepsLine_checkDone (items : List Tree) (ending : Ending) :
    ErrorsAre KeepsLine (checkDone items ending) := by
  unfold checkDone
  split_ifs
  · exact keepsLine_checkClosed ending
  · exact errorsAre_error Problem.keepsLine_malformed

theorem keepsLine_foldMembers {σ : Type} {member : σ → String → Tree → Decoded σ}
    (hmember : ∀ s key t, ErrorsAre KeepsLine (member s key t)) (s : σ) (members : List Member) :
    ErrorsAre KeepsLine (foldMembers member s members) := by
  induction members generalizing s with
  | nil => exact errorsAre_ok s
  | cons first members ih =>
    obtain ⟨key, t⟩ := first
    cases key with
    | none => exact errorsAre_error Problem.keepsLine_malformed
    | some key =>
      rw [foldMembers]
      split
      · exact ih _
      · next herror => exact errorsAre_error (hmember s key t _ herror)

theorem keepsLine_addMember (hname : IsOneLine name) (hdecode : ∀ t, ErrorsAre KeepsLine (decode t))
    (old : Option α) (key : String) (t : Tree) :
    ErrorsAre KeepsLine (addMember name decode old key t) := by
  unfold addMember
  split_ifs
  · exact errorsAre_error (Problem.keepsLine_duplicateField hname)
  · exact (hdecode t).map some
  · exact (keepsLine_skip t).map _

theorem isOneLine_structureName (howner : IsOneLine owner) : IsOneLine (structureName owner) :=
  IsOneLine.append (by decide) howner

theorem keepsLine_onlyField? (howner : IsOneLine owner) (hname : IsOneLine name)
    (hdecode : ∀ t, ErrorsAre KeepsLine (decode t)) (t : Tree) :
    ErrorsAre KeepsLine (onlyField? owner name decode t) := by
  unfold onlyField?
  split
  · next members ending =>
    refine (keepsLine_foldMembers (keepsLine_addMember hname hdecode) none members).bind fun a _ ↦ ?_
    exact (keepsLine_checkClosed ending).bind fun _ _ ↦ errorsAre_ok a
  · next ending => exact (keepsLine_checkClosed ending).map _
  · next first rest ending =>
    refine (hdecode first).bind fun a _ ↦ ?_
    exact (keepsLine_checkDone rest ending).bind fun _ _ ↦ errorsAre_ok (some a)
  · exact errorsAre_error (keepsLine_unexpected (isOneLine_structureName howner) t)

theorem keepsLine_onlyField (howner : IsOneLine owner) (hname : IsOneLine name)
    (hdecode : ∀ t, ErrorsAre KeepsLine (decode t)) (t : Tree) :
    ErrorsAre KeepsLine (onlyField owner name decode t) := by
  refine (keepsLine_onlyField? howner hname hdecode t).bind fun a _ ↦ ?_
  cases a with
  | some a => exact errorsAre_ok a
  | none =>
    apply errorsAre_error
    unfold lacksField
    split
    · exact Problem.keepsLine_wrongLength
        ((isOneLine_structureName howner).append (by decide)) 0
    · exact Problem.keepsLine_missingField hname

theorem keepsLine_onlyFieldOr (howner : IsOneLine owner) (hname : IsOneLine name)
    (hdecode : ∀ t, ErrorsAre KeepsLine (decode t)) (default : α) (t : Tree) :
    ErrorsAre KeepsLine (onlyFieldOr owner name default decode t) :=
  (keepsLine_onlyField? howner hname hdecode t).map _

theorem keepsLine_asString (t : Tree) : ErrorsAre KeepsLine t.asString := by
  unfold asString
  split
  · exact errorsAre_ok _
  · exact errorsAre_error (keepsLine_unexpected (by decide) t)

theorem keepsLine_asNat (t : Tree) : ErrorsAre KeepsLine t.asNat := by
  unfold asNat
  split
  · split_ifs
    · exact errorsAre_ok _
    · exact errorsAre_error (Problem.keepsLine_wrongValue (by decide) _)
  · exact errorsAre_error (keepsLine_unexpected (by decide) t)

theorem keepsLine_asOption (hdecode : ∀ t, ErrorsAre KeepsLine (decode t)) (t : Tree) :
    ErrorsAre KeepsLine (asOption decode t) := by
  unfold asOption
  split
  · exact errorsAre_ok none
  · exact (hdecode t).map some

theorem keepsLine_asArray (hdecode : ∀ t, ErrorsAre KeepsLine (decode t)) (t : Tree) :
    ErrorsAre KeepsLine (asArray decode t) := by
  unfold asArray
  split
  · next items ending =>
    rw [decodeItems_eq_mapM]
    refine (errorsAre_mapM fun t _ ↦ hdecode t).bind fun all _ ↦ ?_
    exact (keepsLine_checkClosed ending).bind fun _ _ ↦ errorsAre_ok all
  · exact errorsAre_error (keepsLine_unexpected (by decide) t)

end Tree

theorem keepsLine_decodeText {α : Type} {decode : Tree → Decoded α}
    (hdecode : ∀ t, ErrorsAre KeepsLine (decode t)) (text : String) :
    ErrorsAre KeepsLine (decodeText decode text) := by
  unfold decodeText
  split
  split
  · split_ifs
    · exact errorsAre_ok _
    · exact errorsAre_error Problem.keepsLine_malformed
  · next herror => exact errorsAre_error (hdecode _ _ herror)

end Json

/-! ## Decoders of XML -/

namespace Namecheap.Answer

open Problem (KeepsLine)
open Xml (Node)

theorem keepsLine_check (holds : Bool) : ErrorsAre KeepsLine (check holds) :=
  Problem.keepsLine_check _

theorem keepsLine_foldElements {σ : Type} {add : σ → List Char → Node → Decoded σ}
    (hadd : ∀ s name node, ErrorsAre KeepsLine (add s name node)) (s : σ) (nodes : List Node) :
    ErrorsAre KeepsLine (foldElements add s nodes) := by
  induction nodes generalizing s with
  | nil => exact errorsAre_ok s
  | cons node nodes ih =>
    cases node with
    | text value =>
      cases value with
      | none => exact errorsAre_error Problem.keepsLine_malformed
      | some text => exact ih s
    | doctype => exact ih s
    | element name attributes children closed =>
      exact (keepsLine_check _).bind fun _ _ ↦ (hadd s _ _).bind fun s' _ ↦ ih s'

theorem keepsLine_textOf (node : Node) : ErrorsAre KeepsLine (textOf node) := by
  unfold textOf
  split
  · split
    · exact errorsAre_ok _
    · exact errorsAre_ok _
    · exact errorsAre_error Problem.keepsLine_malformed
  · exact errorsAre_error Problem.keepsLine_malformed

theorem keepsLine_once {α : Type} {name : String} {decode : Node → Decoded α}
    (hname : IsOneLine name) (hdecode : ∀ node, ErrorsAre KeepsLine (decode node)) (old : Option α)
    (node : Node) : ErrorsAre KeepsLine (once name old decode node) := by
  unfold once
  split_ifs
  · exact errorsAre_error (Problem.keepsLine_duplicateField hname)
  · exact (hdecode node).map some

theorem keepsLine_checkNext (nodes : List Node) : ErrorsAre KeepsLine (checkNext nodes) := by
  unfold checkNext
  split
  · exact keepsLine_check _
  · exact errorsAre_ok ()

theorem keepsLine_checkBeginning (nodes : List Node) :
    ErrorsAre KeepsLine (checkBeginning nodes) := by
  induction nodes with
  | nil => exact errorsAre_ok ()
  | cons node nodes ih =>
    cases node with
    | doctype => exact ih
    | text value =>
      cases value with
      | none => exact errorsAre_error Problem.keepsLine_malformed
      | some text => exact keepsLine_checkNext nodes
    | element name attributes children closed =>
      refine (keepsLine_check _).bind fun _ _ ↦ ?_
      exact (keepsLine_checkNext children).bind fun _ _ ↦ keepsLine_checkNext nodes

theorem keepsLine_skip (node : Node) : ErrorsAre KeepsLine (skip node) := by
  cases node with
  | element name attributes children closed =>
    exact (keepsLine_checkBeginning children).bind fun _ _ ↦ keepsLine_check closed
  | text value => exact errorsAre_ok ()
  | doctype => exact errorsAre_ok ()

theorem keepsLine_addMessage (old : Option String) (name : List Char) (node : Node) :
    ErrorsAre KeepsLine (addMessage old name node) := by
  unfold addMessage
  split_ifs
  · exact keepsLine_once (by decide) keepsLine_textOf old node
  · exact (keepsLine_skip node).map _

theorem keepsLine_messageOf (node : Node) : ErrorsAre KeepsLine (messageOf node) := by
  cases node with
  | text value => exact errorsAre_error Problem.keepsLine_malformed
  | doctype => exact errorsAre_error Problem.keepsLine_malformed
  | element name attributes children closed =>
    refine (keepsLine_check _).bind fun _ _ ↦ ?_
    refine (keepsLine_foldElements keepsLine_addMessage none children).bind fun message _ ↦ ?_
    exact (keepsLine_check closed).bind fun _ _ ↦ errorsAre_ok message

theorem keepsLine_add (old : Answer) (name : List Char) (node : Node) :
    ErrorsAre KeepsLine (add old name node) := by
  unfold add
  split_ifs
  · exact (keepsLine_once (by decide) keepsLine_textOf old.ip node).map _
  · exact (keepsLine_once (by decide) keepsLine_messageOf old.errors node).map _
  · exact (keepsLine_skip node).map _

theorem keepsLine_ofRoot (node : Node) : ErrorsAre KeepsLine (ofRoot node) := by
  cases node with
  | text value =>
    cases value with
    | none => exact errorsAre_error Problem.keepsLine_malformed
    | some text => exact errorsAre_error (Problem.keepsLine_wrongType (by decide) _)
  | doctype => exact errorsAre_error Problem.keepsLine_malformed
  | element name attributes children closed =>
    refine (keepsLine_check _).bind fun _ _ ↦ ?_
    refine (keepsLine_check _).bind fun _ _ ↦ ?_
    refine (keepsLine_foldElements keepsLine_add ⟨none, none⟩ children).bind fun answer _ ↦ ?_
    exact (keepsLine_check closed).bind fun _ _ ↦ errorsAre_ok answer

/-- Why an answer cannot be decoded is said on one line. -/
theorem keepsLine_decode (body : String) : ErrorsAre KeepsLine (decode body) := by
  unfold decode
  split
  · exact keepsLine_ofRoot _
  · exact errorsAre_error Problem.keepsLine_malformed

end Namecheap.Answer

namespace DigitalOcean

open Json (Tree)
open Problem (KeepsLine)

theorem keepsLine_decodeIds (body : String) :
    ErrorsAre KeepsLine (Json.decodeText decodeIds body) := by
  have hid (t : Tree) : ErrorsAre KeepsLine (decodeId t) :=
    Tree.keepsLine_onlyFieldOr (by decide) (by decide)
      (Tree.keepsLine_asOption Tree.keepsLine_asNat) none t
  exact Json.keepsLine_decodeText
    (Tree.keepsLine_onlyFieldOr (by decide) (by decide) (Tree.keepsLine_asArray hid) []) body

theorem keepsLine_decodeRecord (body : String) :
    ErrorsAre KeepsLine (Json.decodeText decodeRecord body) := by
  have hdata (t : Tree) : ErrorsAre KeepsLine (decodeData t) :=
    Tree.keepsLine_onlyFieldOr (by decide) (by decide) Tree.keepsLine_asString "" t
  exact Json.keepsLine_decodeText (Tree.keepsLine_onlyField (by decide) (by decide) hdata) body

end DigitalOcean

end DynamicDns
