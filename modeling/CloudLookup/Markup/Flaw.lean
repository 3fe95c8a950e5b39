/-! What is wrong with a document. -/
namespace CloudLookup.Markup

inductive Flaw where
  | unknownMarkup
  | openInstruction
  | openComment
  | openDoctype
  | openCharacterData
  | openTag
  | unnamedDoctype
  | unmatched (name : String)
  /-- An end tag of another name than that of the innermost open element. -/
  | mismatched (expected found : String)
  deriving DecidableEq, Repr

namespace Flaw

def reason : Flaw → String
  | unknownMarkup => "unknown or missed symbol in markup"
  | openInstruction =>
    "processing instruction or xml declaration not closed: `?>` not found before end of input"
  | openComment => "comment not closed: `-->` not found before end of input"
  | openDoctype => "DOCTYPE not closed: `>` not found before end of input"
  | openCharacterData => "CDATA not closed: `]]>` not found before end of input"
  | openTag => "tag not closed: `>` not found before end of input"
  | unnamedDoctype => "`<!DOCTYPE>` declaration does not contain a name of a document type"
  | unmatched name => s!"close tag `</{name}>` does not match any open tag"
  | mismatched expected found => s!"expected `</{expected}>`, but `</{found}>` was found"

/-- The kind of a flaw: a part is broken, or whole parts do not fit together. -/
def kind : Flaw → String
  | unnamedDoctype | unmatched _ | mismatched _ _ => "ill-formed document"
  | _ => "syntax error"

end Flaw

inductive CharFlaw where
  | sign
  | noDigits
  | invalidDigit
  | tooLarge
  | noCharacter (n : Nat)
  | nul
  deriving DecidableEq, Repr

def CharFlaw.message : CharFlaw → String
  | sign => "unexpected number sign"
  | noDigits => "cannot parse integer from empty string"
  | invalidDigit => "invalid digit found in string"
  | tooLarge => "number too large to fit in target type"
  | noCharacter n => s!"`{n}` is not a valid codepoint"
  | nul => "0x0 character is not permitted in XML"

/-- The wordings of a flaw and of what it rests on: a numeral that cannot be read counts twice. -/
def CharFlaw.messages (flaw : CharFlaw) : List String :=
  match flaw with
  | noDigits | invalidDigit | tooLarge => [flaw.message, flaw.message]
  | sign | noCharacter _ | nul => [flaw.message]

/-- Why a text cannot be decoded. Places are counted in bytes. -/
inductive TextFlaw where
  | unknownEntity (first last : Nat) (name : String)
  | openEntity (first last : Nat)
  | badReference (flaw : CharFlaw)
  deriving DecidableEq, Repr

def TextFlaw.messages : TextFlaw → List String
  | unknownEntity first last name =>
    List.replicate 2 s!"at {first}..{last}: unrecognized entity `{name}`"
  | openEntity first last => List.replicate 2
      s!"Error while escaping character at range {first}..{last}: Cannot find ';' after '&'"
  | badReference flaw =>
    List.replicate 2 s!"invalid character reference: {flaw.message}" ++ flaw.messages

inductive Error where
  /-- The document is malformed; so many bytes had been read. -/
  | malformed (position : Nat) (flaw : Flaw)
  | invalidText (flaw : TextFlaw)
  | unbalanced
  | incomplete
  deriving DecidableEq, Repr

namespace Error

def message : Error → String
  | malformed position _ => s!"Malformed XML at position {position}"
  | invalidText _ => "Invalid XML text"
  | unbalanced => "Unbalanced closing tag in XML response"
  | incomplete => "XML response ended before the root element closed"

def causes : Error → List String
  | malformed _ flaw => [s!"{flaw.kind}: {flaw.reason}", flaw.reason]
  | invalidText flaw => flaw.messages
  | unbalanced | incomplete => []

end Error

end CloudLookup.Markup
