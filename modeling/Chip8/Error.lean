import Chip8.Capacity
import Chip8.Fault
import Chip8.Text.ByteSize
import Chip8.Text.Quoted

/-!
# Errors

Whatever can stop an operation: a fault of the machine, or a failure outside it, in the values it
was given, the picture it was asked for, the files of the command line or the window toolkit. Only a
fault crashes a machine.
-/

namespace Chip8

inductive Error where
  | fault (f : Fault)
  /-- A program value that is no byte. -/
  | byteRange
  /-- A program of a negative number of zeros. -/
  | negativeCount
  /-- A program of more zeros than can be counted. -/
  | countRange
  /-- A program of more zeros than can be addressed. -/
  | countLimit
  /-- A program of more zeros than memory is granted for. -/
  | outOfMemory
  | negativeSeed
  /-- Frames of fewer than one instruction. -/
  | frameLength (ticks : Int)
  /-- A return address that no stack slot can hold. -/
  | returnAddress (pc : Int)
  /-- A stack slot that the machine does not have. -/
  | stackSlot (slot : Int)
  /-- A write through the view of the display. -/
  | readOnlyDisplay
  /-- `size` pixels where a bitmap has 2048. -/
  | bitmapSize (size : Nat)
  | negativeScale
  /-- A scale that cannot be counted. -/
  | scaleRange
  /-- An image of more bytes than can be counted. -/
  | imageSize
  /-- An image of more bytes than memory is granted for. -/
  | imageMemory (rows columns : Nat)
  /-- A picture without pixels, and the format, if it tells its name. -/
  | emptyPicture (format : Option String)
  /-- A picture without pixels, in a format that makes a frame around them. -/
  | emptyFrame
  /-- A picture without pixels, in a format that draws them on a canvas. -/
  | emptyCanvas
  /-- A picture with a side of more than `limit` pixels. -/
  | sideLimit (limit : Nat)
  | unknownExtension (extension : String)
  /-- A picture format that can be read but not written. -/
  | readOnlyFormat (name : String)
  /-- A picture format whose writer has to be installed first. -/
  | writerMissing (name : String)
  /-- A picture format without grey levels. -/
  | greyRefused (name : String)
  /-- A picture format that is more particular about its pixels. -/
  | pixelsRefused (name : String)
  /-- A file in which no picture is found. -/
  | unidentified (path : String)
  /-- A picture file of `pixels` pixels where at most `limit` are read. -/
  | pixelCount (pixels limit : Nat)
  /-- A page description, and nothing installed that could draw it. -/
  | interpreterMissing
  /-- Pixels of one kind where only those of another kind can be read. -/
  | packerMissing (source target : String)
  /-- A path with the character zero in it. -/
  | nullInPath
  | nameTooLong (path : String)
  | noSuchFile (path : String)
  | notDirectory (path : String)
  | isDirectory (path : String)
  /-- Steps to be counted, but the setting was left blank. -/
  | blankCount
  /-- The length of a frame to be checked, but the setting was left blank. -/
  | blankFrame
  /-- A log level to be looked up, but the setting was left blank. -/
  | blankLevel
  /-- An image to be enlarged, but the setting was left blank. -/
  | blankScale
  /-- A request to a window that is gone. -/
  | windowGone
deriving DecidableEq, Repr

namespace Error

open Text (byteSize quoted)

/-- The text that reports a number outside the signed words of 64 bits. -/
def wordRangeText : String := "Python int too large to convert to C long"

def message : Error → String
  | fault f => f.message
  | byteRange => "bytes must be in range(0, 256)"
  | negativeCount => "negative count"
  | countRange => "cannot fit 'int' into an index-sized integer"
  | countLimit => "byte string is too large"
  | outOfMemory => ""
  | negativeSeed => "expected non-negative integer"
  | frameLength ticks => "ticks_per_frame must be at least 1, got " ++ toString ticks
  | returnAddress pc =>
    if Capacity.countable pc then "Python integer " ++ toString pc ++ " out of bounds for uint16"
    else wordRangeText
  | stackSlot slot => "index " ++ toString slot ++ " is out of bounds for axis 0 with size 16"
  | readOnlyDisplay => "assignment destination is read-only"
  | bitmapSize size => "cannot reshape array of size " ++ toString size ++ " into shape (32,64)"
  | negativeScale => "negative dimensions are not allowed"
  | scaleRange => wordRangeText
  | imageSize =>
    "array is too big; `arr.size * arr.dtype.itemsize` is larger than the maximum possible size."
  | imageMemory rows columns =>
    "Unable to allocate " ++ byteSize (rows * columns) ++ " for an array with shape ("
      ++ toString rows ++ ", " ++ toString columns ++ ") and data type uint8"
  | emptyPicture none => "cannot write empty image"
  | emptyPicture (some format) => "Cannot write empty image as " ++ format
  | emptyFrame => "can't allocate picture frame"
  | emptyCanvas => "invalid canvas dimensions"
  | sideLimit limit =>
    "encoding error 5: Image size exceeds WebP limit of " ++ toString limit ++ " pixels"
  | unknownExtension extension => "unknown file extension: " ++ extension
  | readOnlyFormat name => quoted name
  | writerMissing name => name ++ " save handler not installed"
  | greyRefused name => "cannot write mode L as " ++ name
  | pixelsRefused name => "Unsupported " ++ name ++ " image mode"
  | unidentified path => "cannot identify image file " ++ quoted path
  | pixelCount pixels limit =>
    "Image size (" ++ toString pixels ++ " pixels) exceeds limit of " ++ toString limit
      ++ " pixels, could be decompression bomb DOS attack."
  | interpreterMissing => "Unable to locate Ghostscript on paths"
  | packerMissing source target => "No packer found from " ++ source ++ " to " ++ target
  | nullInPath => "embedded null byte"
  | nameTooLong path => "[Errno 36] File name too long: " ++ quoted path
  | noSuchFile path => "[Errno 2] No such file or directory: " ++ quoted path
  | notDirectory path => "[Errno 20] Not a directory: " ++ quoted path
  | isDirectory path => "[Errno 21] Is a directory: " ++ quoted path
  | blankCount => "'list' object cannot be interpreted as an integer"
  | blankFrame => "'<' not supported between instances of 'list' and 'int'"
  | blankLevel => "attribute name must be string, not 'list'"
  | blankScale => "operands could not be broadcast together with shape (32,) (0,)"
  | windowGone => "application has been destroyed"

end Error

end Chip8
