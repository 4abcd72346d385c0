/-!
# Lines of bytes

Input comes as bytes and is cut into lines at line feeds.  A carriage return directly
before a line feed belongs to the line end; what follows the last line feed is a line if
it is not empty.
-/

namespace CommandTree.Text

def lineFeed : UInt8 := 0x0A

/-- The byte that may stand before the end of a line. -/
def carriageReturn : UInt8 := 0x0D

/-- A line, whose bytes are given in reverse, without a carriage return at its end. -/
def endedLine : List UInt8 → List UInt8
  | [] => []
  | byte :: earlier => if byte = carriageReturn then earlier.reverse else (byte :: earlier).reverse

/-- The lines of an input, where `reversed` are the bytes of the current line so far, latest
first. -/
def linesFrom (reversed : List UInt8) : List UInt8 → List (List UInt8)
  | [] => if reversed.isEmpty then [] else [reversed.reverse]
  | byte :: rest =>
    if byte = lineFeed then endedLine reversed :: linesFrom [] rest
    else linesFrom (byte :: reversed) rest

def lines (input : List UInt8) : List (List UInt8) := linesFrom [] input

def decode? (bytes : List UInt8) : Option String := String.fromUTF8? (ByteArray.mk bytes.toArray)

end CommandTree.Text
