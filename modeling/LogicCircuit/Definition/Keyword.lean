/-!
# Keywords

The reserved words of circuit definitions. A word is reserved only in its exact spelling.
-/

namespace LogicCircuit.Definition

/-- A reserved word. -/
inductive Keyword where
  | define
  | connect
  | monitor
  /-- The word that ends a definition. -/
  | endWord
  | as
  | xor
  | dtype
  | clock
  | switch
  | siggen
  | state
  | nand
  | and
  | or
  | nor
  | inputs
  | period
  /-- The word between the level of a waveform and its duration. -/
  | forWord
  | cycles
  | waveform
  /-- The word between the ends of a wire. -/
  | toWord
  | q
  | qbar
  | data
  | clk
  | set
  | clear
  deriving DecidableEq, Repr

namespace Keyword

/-- All keywords, in the order in which a scanner interns them. -/
def all : List Keyword :=
  [define, connect, monitor, endWord, as, xor, dtype, clock, switch, siggen, state, nand, and, or,
    nor, inputs, period, forWord, cycles, waveform, toWord, q, qbar, data, clk, set, clear]

def spelling : Keyword → String
  | define => "define"
  | connect => "connect"
  | monitor => "monitor"
  | endWord => "END"
  | as => "as"
  | xor => "XOR"
  | dtype => "DTYPE"
  | clock => "CLOCK"
  | switch => "SWITCH"
  | siggen => "SIGGEN"
  | state => "state"
  | nand => "NAND"
  | and => "AND"
  | or => "OR"
  | nor => "NOR"
  | inputs => "inputs"
  | period => "period"
  | forWord => "for"
  | cycles => "cycles"
  | waveform => "waveform"
  | toWord => "to"
  | q => "Q"
  | qbar => "QBAR"
  | data => "DATA"
  | clk => "CLK"
  | set => "SET"
  | clear => "CLEAR"

/-- The keyword with a given spelling. -/
def ofSpelling? (text : String) : Option Keyword :=
  all.find? fun keyword => keyword.spelling = text

/-- Whether the keyword begins a statement or ends the definition. Reading resumes at such a word
after a mistake. -/
def startsStatement : Keyword → Bool
  | define | connect | monitor | endWord => true
  | _ => false

@[simp] theorem ofSpelling?_spelling (keyword : Keyword) :
    ofSpelling? keyword.spelling = some keyword := by
  cases keyword <;> decide

end Keyword

end LogicCircuit.Definition
