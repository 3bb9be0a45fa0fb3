import DynamicDns.Text.ContentType
import DynamicDns.Text.Utf8

/-! # Headers of a request

A request may have several headers of one name. Setting a header puts it in the place of all of its name,
and changes no others (`named_set`). The header that carries the token is marked as sensitive; it cannot
be set to a text with a control character other than the tab, and then nothing changes.
-/

namespace DynamicDns.Http

open Text

structure HeaderName where
  text : String
  deriving DecidableEq, Repr

namespace HeaderName

def accept : HeaderName := ⟨"accept"⟩

def authorization : HeaderName := ⟨"authorization"⟩

def contentType : HeaderName := ⟨"content-type"⟩

def userAgent : HeaderName := ⟨"user-agent"⟩

end HeaderName

structure Header where
  name : HeaderName
  value : String
  sensitive : Bool
  deriving DecidableEq, Repr

/-- A media type that the program names, which every header can carry. -/
structure MediaType where
  text : String
  isVisible : text.toList.all ContentType.isVisible = true
  deriving DecidableEq, Repr

abbrev Headers := List Header

namespace Headers

/-- The headers of a name. -/
def named (headers : Headers) (name : HeaderName) : Headers := headers.filter (·.name = name)

/-- The headers of all other names. -/
def without (headers : Headers) (name : HeaderName) : Headers := headers.filter (·.name ≠ name)

/-- Puts a header in the place of those of the same name. -/
def set (h : Header) (headers : Headers) : Headers := headers.without h.name ++ [h]

/-- The first header of a name. -/
def get? (headers : Headers) (name : HeaderName) : Option Header := (headers.named name).head?

theorem named_without_self (headers : Headers) (name : HeaderName) :
    (headers.without name).named name = [] := by
  simp [named, without]

theorem named_without_of_ne {name other : HeaderName} (hne : other ≠ name) (headers : Headers) :
    (headers.without other).named name = headers.named name := by
  rw [named, without, List.filter_filter]
  apply List.filter_congr
  intro g _
  by_cases hname : g.name = name
  · simp [hname, Ne.symm hne]
  · simp [hname]

/-- A header that is set is the only one of its name, and the headers of other names stay. -/
theorem named_set (h : Header) (headers : Headers) (name : HeaderName) :
    (headers.set h).named name = if name = h.name then [h] else headers.named name := by
  rw [set, named, List.filter_append]
  split
  · next heq =>
    have hothers := named_without_self headers h.name
    rw [named] at hothers
    rw [heq, hothers]
    simp
  · next hne =>
    have hothers := named_without_of_ne (Ne.symm hne) headers
    rw [named] at hothers
    rw [hothers]
    simp [Ne.symm hne]

theorem get?_set (h : Header) (headers : Headers) (name : HeaderName) :
    (headers.set h).get? name = if name = h.name then some h else headers.get? name := by
  rw [get?, named_set]
  split
  · rfl
  · rfl

/-- Names the program to the provider. -/
def agent : String := "ddns/0.1.0"

def setUserAgent (headers : Headers) : Headers := headers.set ⟨.userAgent, agent, false⟩

def setAccept (mediaType : MediaType) (headers : Headers) : Headers :=
  headers.set ⟨.accept, mediaType.text, false⟩

def setContentType (mediaType : MediaType) (headers : Headers) : Headers :=
  headers.set ⟨.contentType, mediaType.text, false⟩

/-- The bytes that may stand in a header. -/
def isHeaderByte (b : UInt8) : Bool := b == 9 || (32 ≤ b && b != 127)

def isHeaderText (s : String) : Bool := (Utf8.encode s.toList).all isHeaderByte

/-- Sets the token, if it can be carried in a header. -/
def setBearer? (token : String) (headers : Headers) : Option Headers :=
  if isHeaderText token then some (headers.set ⟨.authorization, "Bearer " ++ token, true⟩)
  else none

end Headers

end DynamicDns.Http
