import ScenarioBench.Text.Octets

/-! Octets written as text, each as the character of its number.

In this form every sequence of octets is a text, of as many characters as there are octets.
-/

set_option autoImplicit false

namespace ScenarioBench.Rehearsal.Octetwise

def character (octet : UInt8) : Char :=
  Char.ofNat octet.toNat

def ofOctets (octets : Octets) : String :=
  String.ofList (octets.map character)

def toOctets (text : String) : Octets :=
  text.toList.map fun character => UInt8.ofNat character.toNat

def ofText (text : String) : String :=
  ofOctets (Octets.ofText text)

end ScenarioBench.Rehearsal.Octetwise
