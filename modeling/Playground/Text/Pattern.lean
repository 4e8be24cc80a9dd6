import Playground.Text.Basic

/-! Patterns over text: sequences of parts that must follow one another, tried at every place of the
text. Runs of blanks are taken whole. -/
namespace Playground.Text

inductive Part where
  | word (text : String)
  | oneOf (texts : List String)
  | charOf (holds : Char → Bool)
  | boundary
  | blanks
  | someBlanks

def wordAt : Option Char → Bool
  | some c => isWordChar c
  | none => false

def lastOf (before : Option Char) (passed : List Char) : Option Char :=
  match passed.getLast? with
  | some c => some c
  | none => before

/- The parts match one after the other, starting where `before` is the character before `rest`. -/
def matchesAt : List Part → (before : Option Char) → (rest : List Char) → Bool
  | [],_,_ => true
  | .word text :: parts,before,rest =>
    let letters := text.toList
    letters.isPrefixOf rest && matchesAt parts (lastOf before letters) (rest.drop letters.length)
  | .oneOf texts :: parts,before,rest =>
    texts.any fun text =>
      let letters := text.toList
      letters.isPrefixOf rest && matchesAt parts (lastOf before letters) (rest.drop letters.length)
  | .charOf _ :: _,_,[] => false
  | .charOf holds :: parts,_,c :: rest => holds c && matchesAt parts (some c) rest
  | .boundary :: parts,before,rest =>
    (wordAt before != wordAt rest.head?) && matchesAt parts before rest
  | .blanks :: parts,before,rest =>
    matchesAt parts (lastOf before (rest.takeWhile isBlank)) (rest.dropWhile isBlank)
  | .someBlanks :: parts,before,rest =>
    let blanks := rest.takeWhile isBlank
    !blanks.isEmpty && matchesAt parts (lastOf before blanks) (rest.dropWhile isBlank)

def occursFrom (parts : List Part) : (before : Option Char) → (rest : List Char) → Bool
  | before,[] => matchesAt parts before []
  | before,c :: rest => matchesAt parts before (c :: rest) || occursFrom parts (some c) rest

def occurs (alternatives : List (List Part)) (text : List Char) : Bool :=
  alternatives.any fun parts => occursFrom parts none text

end Playground.Text
