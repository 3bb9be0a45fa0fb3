import DynamicDns.Error
import DynamicDns.Text.Blank

/-! # Secrets

What a password or a token has to look like. Secrets are judged when an updater is made, so that one
that cannot be right never leaves the machine; a value of one of the two types below has passed.
-/

namespace DynamicDns

open Text

namespace Secret

/-- The characters of a password. -/
def isPasswordChar (c : Char) : Bool := c.isAlphanum || c == '-'

/-- From sixteen to sixty-four letters, digits and hyphens, all of them ASCII. -/
def isPassword (s : String) : Bool :=
  16 ≤ s.length && s.length ≤ 64 && s.toList.all isPasswordChar

/-- A token is anything but blank. -/
def isToken (s : String) : Bool := !Blank.isBlankText s

end Secret

structure Password where
  text : String
  isPassword : Secret.isPassword text = true
  deriving DecidableEq

structure AccessToken where
  text : String
  isToken : Secret.isToken text = true
  deriving DecidableEq

def Password.ofText (s : String) : Except Error Password :=
  if s = "" then .error .emptyPassword
  else if h : Secret.isPassword s = true then .ok ⟨s, h⟩
  else .error .malformedPassword

def AccessToken.ofText (s : String) : Except Error AccessToken :=
  if h : Secret.isToken s = true then .ok ⟨s, h⟩ else .error .emptyToken

end DynamicDns
