/-!
# Texts for terminals

A text that is written for a terminal may hold control sequences, for emphasis and the like. An
output that is not a terminal gets the text without them: `Terminal.plain` leaves out control
sequences and every control character that is not a blank.

A sequence starts with an escape character, and `Mode` is what the terminal takes the next character
for. CAN and SUB end any sequence, and an escape character starts the next one. A blank inside a
sequence is shown, and it interrupts the sequence: what follows is shown up to the next control
character, where the sequence goes on.
-/

namespace LogicCircuit.Text.Terminal

/-- What the next character is taken for. -/
inductive Mode where
  /-- Text to be shown. -/
  | text
  /-- The character that says what an escape character has started. -/
  | escape
  /-- The rest of an escape sequence with an intermediate character. -/
  | escapeRest
  /-- A control sequence, which ends with a letter or the like. -/
  | control
  /-- The start of a device control string. -/
  | deviceStart
  /-- The parameters of a device control string. -/
  | deviceParameters
  /-- The intermediate characters of a device control string. -/
  | deviceRest
  /-- A string that is for the device alone. -/
  | string
  /-- An operating system command, which a bell ends. -/
  | command
  deriving DecidableEq, Repr

/-- The blanks among the control characters: tab, line feed, form feed and carriage return. -/
def isBlankControl (c : Char) : Bool :=
  c = '\t' || c = '\n' || c = '\x0c' || c = '\r'

/-- Whether a character lies between two others. -/
def isBetween (first last c : Char) : Bool :=
  first ≤ c && c ≤ last

/-- Whether a character has the string terminator, the byte 9C, in its encoding. -/
def hasTerminator (c : Char) : Bool :=
  (String.utf8EncodeChar c).contains 0x9C

namespace Mode

/-- Whether a character is shown. -/
def shows (mode : Mode) (c : Char) : Bool :=
  match mode with
  | text => isBlankControl c || (' ' ≤ c && c ≠ '\x7f')
  | escape | escapeRest | control => isBlankControl c
  | deviceStart | deviceParameters | deviceRest | string | command => false

/-- What comes after a character. -/
def after (mode : Mode) (c : Char) : Mode :=
  if c = '\x1b' then escape
  else if c = '\x18' ∨ c = '\x1a' then text
  else match mode with
    | text => text
    | escape =>
      if c = '[' then control
      else if c = ']' then command
      else if c = 'P' then deviceStart
      else if c = 'X' ∨ c = '^' ∨ c = '_' then string
      else if isBetween ' ' '/' c then escapeRest
      else if isBetween '0' '~' c then text
      else escape
    | escapeRest => if isBetween '0' '~' c then text else escapeRest
    | control => if isBetween '@' '~' c then text else control
    | deviceStart =>
      if isBetween ' ' '/' c then deviceRest
      else if isBetween '0' '?' c then deviceParameters
      else if isBetween '@' '~' c then string
      else deviceStart
    | deviceParameters =>
      if isBetween ' ' '/' c then deviceRest
      else if isBetween '<' '~' c then string
      else deviceParameters
    | deviceRest => if isBetween '0' '~' c then string else deviceRest
    | string => if hasTerminator c then text else string
    | command => if c = '\x07' then text else command

end Mode

/-- What is shown of a text from a given mode on. While a sequence is interrupted, characters are
shown as in a text; one beyond ASCII ends the sequence for good. -/
def shown (mode : Mode) (interrupted : Bool) : List Char → List Char
  | [] => []
  | c :: rest =>
    if (if interrupted then Mode.text else mode).shows c then
      c :: shown (if c ≤ '\x7f' then mode else .text) true rest
    else
      shown (mode.after c) false rest

/-- A text without what only a terminal understands. -/
def plain (text : String) : String :=
  String.ofList (shown .text false text.toList)

/-- A text with emphasis. -/
def emphasize (text : String) : String :=
  "\x1b[1m" ++ text ++ "\x1b[0m"

end LogicCircuit.Text.Terminal
