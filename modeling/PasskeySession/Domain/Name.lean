import PasskeySession.Domain.Direction
import PasskeySession.Domain.Joiner
import PasskeySession.Domain.Punycode
import PasskeySession.Text.Composition

/-! # Names of the web

A name is labels with points between. It may be written with characters of any script; written in ASCII, a
label of other characters begins with `xn--`. Names are compared as they are written in ASCII. -/

namespace PasskeySession.DomainName

/-- The beginning of a label in ASCII that stands for one of other characters. -/
def lead : List Char := "xn--".toList

def isAscii (cs : List Char) : Bool := cs.all (·.toNat < 0x80)

/-- Whether a label is as it would be written out in full: its characters stand for themselves and are
    composed. -/
def isPlain (cs : List Char) : Bool :=
  cs.all (fun c => standsFor? c == some [c] && c != '.') && Text.composed cs == cs

def expand? (cs : List Char) : Option (List Char) :=
  if lead.isPrefixOf cs then
    if isAscii cs && cs.getLast? != some '-' then (Punycode.decode? (cs.drop lead.length)).filter isPlain else none
  else some cs

/-- Whether a label does not begin with a mark and has its joiners in place. -/
def isWellFormed (cs : List Char) : Bool := !cs.head?.any Text.isMark && joinersFit [] cs

def toAscii (cs : List Char) : List Char := if isAscii cs then cs else lead ++ Punycode.encode cs

/-- A name in ASCII; none if it is no name. -/
def normalize? (cs : List Char) : Option (List Char) := do
  let chars := (← cs.mapM standsFor?).flatten
  let labels ← (Text.splitBy (· == '.') (Text.composed chars)).mapM expand?
  let directions := labels.map (·.map Direction.ofChar)
  if labels.all isWellFormed && (directions.all (·.all (!·.isRight)) || directions.all Direction.fits) then
    some (['.'].intercalate (labels.map toAscii))
  else none

end PasskeySession.DomainName
