/-
Lower-casing of whole texts.  Every character has a lower-case form of its own, with two
exceptions: the dotted capital I becomes two characters, and the capital sigma becomes a
final sigma where it closes a word and a plain small sigma elsewhere.
-/
import GrammarSieve.Text.LowerMap
import GrammarSieve.Text.CaseContext

namespace GrammarSieve.Text

/-- The capital sigma, the only character whose lower-case form depends on its neighbours. -/
def capitalSigma : Char := '\u03A3'

def smallSigma : Char := '\u03C3'

/-- The small sigma that closes a word. -/
def finalSigma : Char := '\u03C2'

/-- The nearest character that is not passed over has a case. -/
def nearestIsCased (neighbours : List Char) : Bool :=
  match neighbours.dropWhile isCaseIgnorable with
  | [] => false
  | c :: _ => isCased c

/-- A capital sigma closes a word if the nearest character before it has a case and the
nearest one after it has none.  The characters before are listed nearest first. -/
def lowerSigma (before after : List Char) : Char :=
  if nearestIsCased before && !nearestIsCased after then finalSigma else smallSigma

/-- The lower-case form of a character outside of any context. -/
def lowerChar (c : Char) : List Char :=
  if c = '\u0130' then ['i', '\u0307']
  else match lowerPoint? c.toNat with
    | some n => [Char.ofNat n]
    | none => [c]

/-- Lower-cases a text that follows the characters `before`, which are listed nearest
first. -/
def lowerAfter (before : List Char) : List Char → List Char
  | [] => []
  | c :: rest =>
      (if c = capitalSigma then [lowerSigma before rest] else lowerChar c) ++
        lowerAfter (c :: before) rest

def lower (text : List Char) : List Char :=
  lowerAfter [] text

end GrammarSieve.Text
