import DynamicDns.Proofs.Blank
import DynamicDns.Proofs.Namecheap.Document

/-!
# Documented answers

An answer to an update has one element `IP` with an address and at most one element for errors,
anywhere among other elements. All such documents are read the same way, however they are laid out:
a message that is not blank is a refusal, whatever the address, and without one the address is
confirmed.
-/

namespace DynamicDns.Namecheap

open Text
open Xml (Element Escaped Name Space)

/-! ## What the root element holds -/

def errorsTag : Name := ⟨Answer.errorsName.toList, by decide, by decide⟩

def messageTag : Name := ⟨Answer.messageName.toList, by decide, by decide⟩

/-- The element for errors, in which the element for the message may be missing or empty. -/
inductive ErrorsElement where
  | empty
  | bare (last : Space)
  | emptyMessage (before last : Space)
  | message (before : Space) (text : Escaped) (last : Space)

namespace ErrorsElement

def toElement : ErrorsElement → Element
  | .empty => .empty errorsTag
  | .bare last => .node errorsTag [] last
  | .emptyMessage before last => .node errorsTag [(before, .empty messageTag)] last
  | .message before text last => .node errorsTag [(before, .leaf messageTag text)] last

/-- The message as it was meant. -/
def value : ErrorsElement → String
  | .empty | .bare _ | .emptyMessage _ _ => ""
  | .message _ text _ => String.ofList text.value

/-- The message as it is read. -/
def told : ErrorsElement → Option String
  | .empty | .bare _ => none
  | .emptyMessage _ _ => some ""
  | .message _ text _ => some (String.ofList text.core)

end ErrorsElement

/-- An element that an answer may have besides the documented ones. -/
structure OtherElement where
  element : Element
  unprefixed : ':' ∉ element.name.chars
  ne_ip : element.name.chars ≠ Answer.ipName.toList
  ne_errors : element.name.chars ≠ Answer.errorsName.toList

/-- An element of the root element. -/
inductive Part where
  | address (address : Address)
  | errors (e : ErrorsElement)
  | other (e : OtherElement)

namespace Part

def toElement : Part → Element
  | .address ip => .leaf ipTag (.ofPlain ip.toChars ip.isPlain)
  | .errors e => e.toElement
  | .other e => e.element

def address? : Part → Option Address
  | .address ip => some ip
  | .errors _ | .other _ => none

def errors? : Part → Option ErrorsElement
  | .errors e => some e
  | .address _ | .other _ => none

end Part

/-- A documented answer, with its declaration and its white space. -/
structure Layout where
  declaration : Option Xml.Declaration
  before : Space
  name : Name
  content : List (Space × Part)
  last : Space
  after : Space
  address : Address
  errors : Option ErrorsElement
  addresses_eq : (content.map Prod.snd).filterMap Part.address? = [address]
  errors_eq : (content.map Prod.snd).filterMap Part.errors? = errors.toList

namespace Layout

def root (l : Layout) : Element :=
  .node l.name (l.content.map fun part ↦ (part.1, part.2.toElement)) l.last

def text (l : Layout) : String := (Xml.Document.mk l.declaration l.before l.root l.after).text

/-- The message of the vendor, empty if there is none. -/
def message (l : Layout) : String := (l.errors.map ErrorsElement.value).getD ""

end Layout

/-! ## Reading the parts -/

namespace Answer

/-- Only blanks are lost of a text. -/
theorem trim_core (text : Escaped) :
    Blank.trim (String.ofList text.core) = Blank.trim (String.ofList text.value) := by
  obtain ⟨-, front, back, hvalue⟩ := text.exists_eq_append_core
  have hblank (space : Space) : ∀ c ∈ space.chars, Blank.isBlank c = true := by
    intro c hc
    have hspace := space.isSpace c hc
    simp only [Xml.isSpace, Bool.or_eq_true, beq_iff_eq] at hspace
    rcases hspace with ((rfl | rfl) | rfl) | rfl <;> decide
  have htrim := Blank.trimChars_append (hblank front) (hblank back) text.core
  rw [Blank.trim, Blank.trim, String.toList_ofList, String.toList_ofList, hvalue, htrim]

theorem textOf_leaf (name : Name) (text : Escaped) :
    textOf (Element.leaf name text).toNode = .ok (String.ofList text.core) := by
  have hnodes : (Element.leaf name text).toNode = .element name.chars [] text.nodes true := rfl
  rw [hnodes, Escaped.nodes]
  split_ifs with hempty
  · have hcore : text.core = [] := by
      rw [Escaped.core, List.isEmpty_iff.1 hempty]
      rfl
    rw [hcore]
    rfl
  · rfl

theorem messageOf_toNode (e : ErrorsElement) : messageOf e.toElement.toNode = .ok e.told := by
  cases e with
  | empty => rfl
  | bare last => rfl
  | emptyMessage before last => rfl
  | message before text last =>
    have hadd : addMessage none (Xml.localName messageTag.chars)
        (Element.leaf messageTag text).toNode = .ok (some (String.ofList text.core)) := by
      have hname : Xml.localName messageTag.chars = messageName.toList := by decide
      rw [addMessage, if_pos hname, once, textOf_leaf]
      rfl
    have hfold : foldElements addMessage none [(Element.leaf messageTag text).toNode] =
        .ok (some (String.ofList text.core)) := by
      rw [Element.toNode, foldElements, ← Element.toNode, Element.name, hadd]
      rfl
    change (foldElements addMessage none [(Element.leaf messageTag text).toNode] >>= fun m ↦ .ok m) = _
    rw [hfold]
    rfl

variable {a : Answer}

theorem add_address (address : Address) (h : a.ip = none) :
    add a (Xml.localName (Part.address address).toElement.name.chars)
      (Part.address address).toElement.toNode = .ok { a with ip := some address.text } := by
  have htag : (Part.address address).toElement.name = ipTag := rfl
  have hname : Xml.localName ipTag.chars = ipName.toList := by decide
  have htext : textOf (Part.address address).toElement.toNode = .ok address.text := by
    rw [Part.toElement, textOf_leaf, Escaped.core_ofPlain]
    rfl
  rw [add, htag, if_pos hname, once, h, htext]
  rfl

theorem add_errors (e : ErrorsElement) (h : a.errors = none) :
    add a (Xml.localName (Part.errors e).toElement.name.chars) (Part.errors e).toElement.toNode =
      .ok { a with errors := some e.told } := by
  have htag : (Part.errors e).toElement.name = errorsTag := by cases e <;> rfl
  have hname : Xml.localName errorsTag.chars = errorsName.toList := by decide
  have hip : errorsName.toList ≠ ipName.toList := by decide
  have hmessage : messageOf (Part.errors e).toElement.toNode = .ok e.told := messageOf_toNode e
  rw [add, htag, hname, if_neg hip, if_pos rfl, once, h, hmessage]
  rfl

theorem checkNext_children (e : Element) : checkNext e.children = .ok () := by
  cases e with
  | empty name => rfl
  | leaf name text =>
    rw [Element.children, Escaped.nodes]
    split_ifs
    · rfl
    · rfl
  | node name content last =>
    cases content with
    | nil => rfl
    | cons part content => rfl

/-- Whatever an element begins with can be passed over: the text of a written element was escaped, and
no tag binds a prefix. -/
theorem checkBeginning_children (e : Element) : checkBeginning e.children = .ok () := by
  cases e with
  | empty name => rfl
  | leaf name text =>
    rw [Element.children, Escaped.nodes]
    split_ifs
    · rfl
    · rfl
  | node name content last =>
    cases content with
    | nil => rfl
    | cons part content =>
      change (checkNext part.2.children >>= fun _ ↦ checkNext (Element.contentNodes content)) = _
      rw [checkNext_children]
      exact checkNext_children (.node name content last)

/-- Other elements are passed over. -/
theorem add_other (e : OtherElement) :
    add a (Xml.localName (Part.other e).toElement.name.chars) (Part.other e).toElement.toNode =
      .ok a := by
  have hname : Xml.localName e.element.name.chars = e.element.name.chars := by
    have hcolon : e.element.name.chars.contains ':' = false := by simpa using e.unprefixed
    rw [Xml.localName, hcolon]
    rfl
  have hskip : skip e.element.toNode = .ok () := by
    rw [Element.toNode, skip, checkBeginning_children]
    rfl
  rw [Part.toElement, add, hname, if_neg e.ne_ip, if_neg e.ne_errors, hskip]
  rfl

/-- Goes through the parts in whatever order they stand, if the answer has room for them. -/
theorem foldElements_parts (parts : List Part)
    (hip : (a.ip.toList ++ (parts.filterMap Part.address?).map Address.text).length ≤ 1)
    (herrors : (a.errors.toList ++
      (parts.filterMap Part.errors?).map ErrorsElement.told).length ≤ 1) :
    foldElements add a (parts.map (·.toElement.toNode)) = .ok
      ⟨(a.ip.toList ++ (parts.filterMap Part.address?).map Address.text).head?,
        (a.errors.toList ++ (parts.filterMap Part.errors?).map ErrorsElement.told).head?⟩ := by
  induction parts generalizing a with
  | nil =>
    obtain ⟨ip, errors⟩ := a
    cases ip <;> cases errors <;> rfl
  | cons part parts ih =>
    obtain ⟨ip, errors⟩ := a
    rw [List.map_cons, Element.toNode, foldElements, ← Element.toNode]
    cases part with
    | address address =>
      rw [List.filterMap_cons_some (f := Part.address?) rfl] at hip ⊢
      rw [List.filterMap_cons_none (f := Part.errors?) rfl] at herrors ⊢
      obtain rfl : ip = none := by
        cases ip with
        | none => rfl
        | some ip => simp at hip
      rw [add_address address rfl]
      exact ih hip herrors
    | errors element =>
      rw [List.filterMap_cons_none (f := Part.address?) rfl] at hip ⊢
      rw [List.filterMap_cons_some (f := Part.errors?) rfl] at herrors ⊢
      obtain rfl : errors = none := by
        cases errors with
        | none => rfl
        | some errors => simp at herrors
      rw [add_errors element rfl]
      exact ih hip herrors
    | other element =>
      rw [List.filterMap_cons_none (f := Part.address?) rfl] at hip ⊢
      rw [List.filterMap_cons_none (f := Part.errors?) rfl] at herrors ⊢
      rw [add_other element]
      exact ih hip herrors

end Answer

/-! ## Reading the whole -/

namespace Layout

variable (l : Layout)

theorem children_root :
    l.root.children = (l.content.map Prod.snd).map (·.toElement.toNode) := by
  rw [root, Element.children, Element.contentNodes_eq_map, List.map_map, List.map_map]
  rfl

/-- What the elements of a documented answer hold. -/
theorem decode_text :
    Answer.decode l.text = .ok ⟨some l.address.text, l.errors.map ErrorsElement.told⟩ := by
  have hread : Xml.read l.text = some l.root.toNode := Xml.Document.read_text _
  have hfold : Answer.foldElements Answer.add ⟨none, none⟩ l.root.children =
      .ok ⟨some l.address.text, l.errors.map ErrorsElement.told⟩ := by
    have hhead : (l.errors.toList.map ErrorsElement.told).head? =
        l.errors.map ErrorsElement.told := by
      cases l.errors <;> rfl
    rw [children_root, Answer.foldElements_parts _ (by simp [l.addresses_eq])
      (by cases l.errors <;> simp [l.errors_eq]), l.addresses_eq, l.errors_eq, ← hhead]
    rfl
  rw [Answer.decode, hread]
  change (Answer.foldElements Answer.add ⟨none, none⟩ l.root.children >>= fun answer ↦ .ok answer) = _
  rw [hfold]
  rfl

/-- The message is read without the blanks at its ends. -/
theorem message_decoded (ip : Option String) :
    (Answer.mk ip (l.errors.map ErrorsElement.told)).message = Blank.trim l.message := by
  rw [Answer.message, message]
  cases l.errors with
  | none => rfl
  | some e =>
    cases e with
    | empty => rfl
    | bare last => rfl
    | emptyMessage before last => rfl
    | message before text last => exact Answer.trim_core text

end Layout

/-- However a documented answer is laid out, a message that is not blank refuses the update, and without
one exactly the address is read. -/
theorem documented_answer_is_read (l : Layout) :
    Answer.read l.text =
      if Blank.isBlankText l.message then .ok l.address
      else .error (.refused (Blank.trim l.message)) := by
  rw [Answer.read, l.decode_text]
  change Answer.address _ = _
  rw [Answer.address, l.message_decoded]
  by_cases hblank : Blank.isBlankText l.message = true
  · have hparsed : Address.parse? (Blank.trim l.address.text) = some l.address := by
      rw [Address.trim_text, Address.parse?_text]
    rw [if_pos hblank, if_neg (not_not.2 (Blank.trim_eq_empty_iff.2 hblank))]
    simp only [Option.getD_some, hparsed]
  · rw [if_neg hblank, if_pos fun hempty ↦ hblank (Blank.trim_eq_empty_iff.1 hempty)]

/-- An update that is refused although its address is echoed, with a declaration and other elements. -/
def refusedEcho : Layout where
  declaration := some ⟨" version=\"1.0\"".toList, by decide⟩
  before := ⟨['\n'], by decide⟩
  name := ⟨"interface-response".toList, by decide, by decide⟩
  content :=
    [(⟨['\n', ' '], by decide⟩, .other
      ⟨.leaf ⟨"Command".toList, by decide, by decide⟩ (.ofChars "SETDNSHOST".toList),
        by decide, by decide, by decide⟩),
      (.none, .errors (.message .none (.ofChars " Passwords don't match\n".toList) .none)),
      (⟨['\n', ' '], by decide⟩, .address (.v4 ⟨1, 2, 3, 4⟩))]
  last := ⟨['\n'], by decide⟩
  after := .none
  address := .v4 ⟨1, 2, 3, 4⟩
  errors := some (.message .none (.ofChars " Passwords don't match\n".toList) .none)
  addresses_eq := rfl
  errors_eq := rfl

/-- The message of the refusal is told, without the blanks around it and with its apostrophe. -/
theorem echoed_refusal_is_told :
    refusedEcho.text = "<?xml version=\"1.0\"?>\n<interface-response>\n <Command>SETDNSHOST</Command>" ++
      "<errors><Err1> Passwords don&apos;t match\n</Err1></errors>\n <IP>1.2.3.4</IP>\n" ++
      "</interface-response>" ∧
    Answer.read refusedEcho.text = .error (.refused "Passwords don't match") := by
  refine ⟨by decide +kernel, ?_⟩
  have hfilled : Blank.isBlankText refusedEcho.message = false := by decide +kernel
  have htrimmed : Blank.trim refusedEcho.message = "Passwords don't match" := by decide +kernel
  rw [documented_answer_is_read, hfilled, htrimmed]
  rfl

end DynamicDns.Namecheap
