/-!
# Control sequences

Texts may hold sequences of bytes that steer a terminal instead of being shown by it. This module
leaves them out of a text, and with them all control characters but white space.

A sequence begins with an escape byte. What follows decides how long it goes on: up to a final
byte, or up to a terminator, which may never come. White space that interrupts a sequence is shown,
and so is all that follows it up to the next byte that is not shown outside of sequences; from that
byte on the sequence is resumed.
-/

namespace FileScript.Text

/-- Where in a sequence a text stands. -/
inductive ControlState where
  /-- Outside of every sequence. -/
  | ground
  /-- Inside a character of which so many bytes are still to come. -/
  | character (left : Nat)
  /-- After an escape byte. -/
  | escape
  /-- After an escape byte and further bytes that do not end the sequence. -/
  | escapeMore
  /-- In a sequence with parameters. -/
  | parameters
  /-- In a device control string, before its body. -/
  | device
  /-- In the body of a device control string. -/
  | deviceBody
  /-- In a command to the operating system. -/
  | command
  /-- In a string that has no effect. -/
  | ignored
  deriving DecidableEq, Repr, Inhabited

namespace ControlState

/-- Whether a control character is white space, which is shown even where it interrupts a sequence.
-/
def isSpace (b : UInt8) : Bool := b == 9 || b == 10 || b == 12 || b == 13

/-- A change of the state, if there is one, and whether the byte is shown. -/
abbrev Step := Option ControlState × Bool

/-- A byte that is not shown leads to a state. -/
def entering (s : ControlState) : Step := (some s, false)

/-- A byte that is not shown changes nothing. -/
def pass : Step := (none, false)

/-- How a byte outside of every sequence is taken. -/
def stepGround (b : UInt8) : Step :=
  if b < 0x20 then (none, isSpace b)
  else if b < 0x7f then (none, true)
  else if b < 0xc2 then pass
  else if b < 0xe0 then (some (character 1), true)
  else if b < 0xf0 then (some (character 2), true)
  else if b < 0xf5 then (some (character 3), true)
  else pass

/-- How a byte after an escape byte is taken. -/
def stepEscape (b : UInt8) : Step :=
  if b < 0x20 then (none, isSpace b)
  else if b < 0x30 then entering escapeMore
  else if b == 0x50 then entering device
  else if b == 0x5b then entering parameters
  else if b == 0x5d then entering command
  else if b == 0x58 || b == 0x5e || b == 0x5f then entering ignored
  else if b < 0x7f then entering ground
  else pass

/-- How a byte is taken in a sequence that goes on up to a byte from `final` on. -/
def stepUpTo (final b : UInt8) : Step :=
  if b < 0x20 then (none, isSpace b)
  else if final ≤ b && b < 0x7f then entering ground
  else pass

/-- How a byte is taken in a device control string before its body, which begins with a letter. -/
def stepDevice (b : UInt8) : Step :=
  if 0x40 ≤ b && b < 0x7f then entering deviceBody else pass

/-- How a byte is taken in a state. -/
def step (s : ControlState) (b : UInt8) : Step :=
  if b == 0x1b then entering escape
  else if b == 0x18 || b == 0x1a then entering ground
  else match s with
  | ground | character _ => stepGround b
  | escape => stepEscape b
  | escapeMore => stepUpTo 0x30 b
  | parameters => stepUpTo 0x40 b
  | device => stepDevice b
  | deviceBody | ignored => if b == 0x9c then entering ground else pass
  | command => if b == 0x07 then entering ground else pass

/-- How a byte is taken while text is shown: as outside of every sequence, but the state is kept. -/
def show? (s : ControlState) (b : UInt8) : ControlState × Bool :=
  match s with
  | character (left + 1) => (if left = 0 then ground else character left, true)
  | s =>
    let (next, shown) := ground.step b
    (next.getD s, shown)

end ControlState

/-- What is shown of some bytes, from a state on. `showing` says whether the byte before was shown.
-/
def shownFrom (s : ControlState) (showing : Bool) : List UInt8 → List UInt8
  | [] => []
  | b :: rest =>
    let (s, shown) := if showing then s.show? b else (s, false)
    if shown then b :: shownFrom s true rest
    else
      let (next, shown) := s.step b
      if shown then b :: shownFrom (next.getD s) true rest else shownFrom (next.getD s) false rest

/-- What is shown of some bytes: all but control sequences and control characters. -/
def shown (bytes : List UInt8) : List UInt8 := shownFrom .ground false bytes

end FileScript.Text
