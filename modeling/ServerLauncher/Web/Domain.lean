import ServerLauncher.Web.Domain.Direction
import ServerLauncher.Web.Domain.Joining
import ServerLauncher.Web.Domain.Mapping
import ServerLauncher.Web.Domain.Punycode

/-!
# Domain names

A domain name is typed in any script and looked up in ASCII. `Domain.toAscii?` brings a name to
normal form, cuts it at the points into labels, sees that each of them can stand in a name, and
writes those that are not ASCII in the way of `Punycode`. A label that is already written so has to
be one that would be. Names in plain ASCII only change to lower case.
-/

namespace ServerLauncher.Domain

/-! ## Labels -/

/-- What a label in the way of `Punycode` starts with. -/
def sign : List Char := "xn--".toList

/-- The longest label that is written. -/
def maxLabel : Nat := 1000

/-- The longest label that is read. -/
def maxWritten : Nat := 2000

/-- The characters are ASCII. -/
def isAscii (cs : List Char) : Bool :=
  cs.all fun c => c.toNat < 0x80

/-- A label of a name in normal form, as it is meant. -/
def meant? (label : List Char) : Option (List Char) :=
  if sign.isPrefixOf label then
    let written := label.drop sign.length
    if isAscii written ∧ written.length ≤ maxWritten then
      (Punycode.decode? written).filter fun m => !isAscii m && isMapped m
    else none
  else some label

/-- The label can stand in a name. -/
def isLabel (label : List Char) : Bool :=
  !(label.head?.any isMark) && areJoined label

/-- A label in ASCII, if it is not too long. -/
def written? (label : List Char) : Option (List Char) :=
  if isAscii label then some label
  else if label.length ≤ maxLabel then some (sign ++ Punycode.encode label)
  else none

/-! ## Names -/

/-- The labels of a name in normal form, if they make up a name. -/
def labels? (name : List Char) : Option (List (List Char)) :=
  ((name.splitOn '.').mapM meant?).filter fun ls => ls.all isLabel && isOrdered ls

/-- The name is ASCII, and none of its labels is written in another way. -/
def isPlain (cs : List Char) : Bool :=
  isAscii cs && !((cs.map Char.toLower).splitOn '.').any sign.isPrefixOf

/-- A name in ASCII. -/
def toAscii? (cs : List Char) : Option (List Char) :=
  if isPlain cs then some (cs.map Char.toLower)
  else ((mapped? cs).bind labels?).bind fun ls => (ls.mapM written?).map ['.'].intercalate

end ServerLauncher.Domain
