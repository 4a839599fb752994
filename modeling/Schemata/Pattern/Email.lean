import Schemata.Pattern.Regex
/-!
# Email — the shape of an address

One at sign; before it a local part of letters, digits and `. _ % + -`; after it labels with points between them, each
of letters, digits and inner hyphens, the last of two letters or more.  All characters are ASCII.
-/
namespace Schemata
namespace Email

def letter : CharSet := .ofRanges [('A', 'Z'), ('a', 'z')]

def letterOrDigit : CharSet := .ofRanges [('A', 'Z'), ('a', 'z'), ('0', '9')]

def letterDigitOrHyphen : CharSet := .union letterOrDigit (.single '-')

def localPart : CharSet :=
  .union letterOrDigit (.ofRanges [('.', '.'), ('_', '_'), ('%', '%'), ('+', '+'), ('-', '-')])

/-- A letter or digit, and after it, if more follows, anything inner up to another letter or digit. -/
def label : Regex :=
  .seq (.one letterOrDigit) (.opt (.seq (.star (.one letterDigitOrHyphen)) (.one letterOrDigit)))

/-- The whole address, from the start of the text to its end. -/
def address : Regex :=
  .sequence [
    .anchor .textStart,
    .plus (.one localPart),
    .char '@',
    label,
    .star (.seq (.char '.') label),
    .char '.',
    .repeated (.one letter) 2 none,
    .anchor .textEnd]

def accepts (text : String) : Bool := address.search text

end Email
end Schemata
