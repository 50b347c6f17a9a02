import ChatQuery.Text.Digit
import ChatQuery.Text.Word

/-! The texts that the platform takes for identifiers and for bot tokens. -/
namespace ChatQuery

/-- Identifiers are 18 decimal digits, of any script. -/
def isSnowflake (text : String) : Bool :=
  text.toList.length == 18 && text.toList.all Text.isDigit

theorem isSnowflake_iff {text : String} : isSnowflake text = true ↔
    text.toList.length = 18 ∧ ∀ c ∈ text.toList, Text.isDigit c = true := by
  simp [isSnowflake]

def isTokenLetter (c : Char) : Bool := Text.isWord c || c == '-'

/-- Bot tokens have three parts with a point between them: at least 24, exactly 6 and at least 27
word characters or hyphens. -/
def isBotToken (text : String) : Bool :=
  let first := text.toList.takeWhile isTokenLetter
  match text.toList.dropWhile isTokenLetter with
  | '.' :: rest =>
    let second := rest.takeWhile isTokenLetter
    match rest.dropWhile isTokenLetter with
    | '.' :: third =>
      decide (24 ≤ first.length) && second.length == 6 && decide (27 ≤ third.length) &&
        third.all isTokenLetter
    | _ => false
  | _ => false

example : isSnowflake "364140226775784869" = true := by decide +kernel
example : isSnowflake "36414022677578486x" = false := by decide +kernel
example : isBotToken "AAAAAAAAAAAAAAAAAAAAAAAA.BBBBBB.CCCCCCCCCCCCCCCCCCCCCCCCCCC" = true := by
  decide +kernel
example : isBotToken "not.a.token" = false := by decide +kernel

end ChatQuery
