import DynamicDns.Namecheap.Answer
import DynamicDns.Proofs.Address
import DynamicDns.Proofs.WrittenXml

/-!
# Documents with an address

The shortest document that reports an address is an element with the element `IP`. What stands in it
as plain text, without white space and without signs that XML reserves, is read as it stands.
-/

namespace DynamicDns

/-- The text of every address can stand in a document as it is. -/
theorem Address.isPlain (address : Address) : ∀ c ∈ address.toChars, Xml.IsPlain c := by
  have hdigit : ∀ d < 16, Xml.isSpace (Text.Numeral.digit d) = false ∧
      Text.Numeral.digit d ≠ '<' ∧ Text.Numeral.digit d ≠ '&' := by decide
  exact Address.forall_mem_toChars
    (fun d hd ↦ ⟨(hdigit d hd).1, (hdigit d hd).2.1, (hdigit d hd).2.2⟩)
    ⟨by decide, by decide, by decide⟩ ⟨by decide, by decide, by decide⟩ address

namespace Namecheap

open Xml (IsPlain Escaped)

def rootName : List Char := "answer".toList

/-- A document with an address and nothing else. -/
def document (text : String) : String :=
  String.ofList ('<' :: (rootName ++ '>' :: '<' :: (Answer.ipName.toList ++ '>' ::
    (text.toList ++ '<' :: '/' :: (Answer.ipName.toList ++ '>' :: '<' :: '/' ::
      (rootName ++ ['>']))))))

/-- The tag of an address. -/
def ipTag : Xml.Name := ⟨Answer.ipName.toList, by decide, by decide⟩

variable {text : String}

theorem read_document (hne : text.toList ≠ []) (hplain : ∀ c ∈ text.toList, IsPlain c) :
    Xml.read (document text) = some (.element rootName []
      [.element Answer.ipName.toList [] [.text (some text)] true] true) := by
  let root : Xml.Name := ⟨rootName, by decide, by decide⟩
  let ip : Xml.Element := .leaf ipTag (.ofPlain text.toList hplain)
  let written : Xml.Document := ⟨none, .none, .node root [(.none, ip)] .none, .none⟩
  have hwritten : document text = written.text := by
    simp [document, Xml.Document.text, Xml.Document.prolog, written, Xml.Space.none,
      Xml.Element.contentChars, Xml.Element.chars, ip, ipTag, root,
      Escaped.ofPlain]
  have hnodes : (Escaped.ofPlain text.toList hplain).nodes = [.text (some text)] := by
    have hfull : text.toList.isEmpty = false := by simpa using hne
    rw [Escaped.nodes, Escaped.core_ofPlain, String.ofList_toList]
    simp [Escaped.ofPlain, Xml.trimmed_of_plain hplain, hfull]
  rw [hwritten, Xml.Document.read_text]
  simp [written, Xml.Element.toNode, Xml.Element.name, Xml.Element.children,
    Xml.Element.contentNodes, ip, hnodes, root, ipTag]

/-- The text of the document is read back, and there is no message. -/
theorem decode_document (hne : text.toList ≠ []) (hplain : ∀ c ∈ text.toList, IsPlain c) :
    Answer.decode (document text) = .ok ⟨some text, none⟩ := by
  rw [Answer.decode, read_document hne hplain]
  rfl

end Namecheap

end DynamicDns
