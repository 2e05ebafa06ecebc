import Chip8.Picture.Format
import Chip8.Picture.Gif
import Chip8.Picture.Icon
import Chip8.Picture.Jpeg
import Chip8.Picture.Png
import Chip8.Picture.Raster

/-!
# Picture files

A picture of a bitmap is saved under a path whose extension names the format. The picture is made
before the path is looked at, and the file's place is found before the picture is written. A file
can then be read again, unless it is too large or holds nothing, or its format is made for printers
or for pictures in colour.
-/

namespace Chip8.Picture

/-- A picture file: where it stands, its format and its image. -/
structure File where
  spot : Folder.Spot
  format : Format
  image : Image

def file (folder : Folder) (path : String) (image : Image) : Except Error File := do
  let support ← support path
  let spot ← folder.target path
  let format ← support.formatOf image
  return { spot, format, image }

/-- `save_display_png`: the path is looked at only once the picture is made. -/
def save (folder : Folder) (d : Bitmap) (path : String) (scale : Int) : Except Error File := do
  let image ← d.image scale
  file folder path image

/-! ## Reading -/

structure Contents where
  format : Format
  mode : Mode
  image : Image

/-- The most pixels that are read from a file. -/
abbrev maxPixels : Nat := 178956970

def File.checkPixels (f : File) : Except Error Unit :=
  let pixels := f.image.width * f.image.height
  if maxPixels < pixels then .error (.pixelCount pixels maxPixels) else .ok ()

/-- Refuse a file that cannot be read under its path. The frames of an icon are never too large, but
icons of the other kind are only read in colour. -/
def File.check (f : File) (path : String) : Except Error Unit :=
  match f.format with
  | .pdf => .error (.unidentified path)
  | .icns => .error (.packerMissing Mode.grey.name "RGBA")
  | .ico => .ok ()
  | .eps => do
    f.checkPixels
    throw .interpreterMissing
  | _ => if f.image.isEmpty then .error (.unidentified path) else f.checkPixels

def File.read (f : File) (path : String) : Except Error Contents := do
  f.check path
  return { format := f.format, mode := f.format.mode, image := f.format.shown f.image }

/-! ## Writing -/

/-- The bytes of a file, if the library writes its format itself. -/
def Format.encode? (f : Format) (image : Image) : Option (List UInt8) :=
  match f with
  | .png => some (Png.encode image)
  | .bmp => some (Raster.bmp image)
  | .dib => some (Raster.dib image)
  | .ppm => some (Raster.ppm image)
  | .tiff => some (Raster.tiff image)
  | .gif => some (Gif.encode image)
  | .jpeg => some (Jpeg.encode image)
  | .tga => some (Raster.tga image)
  | .pcx => some (Raster.pcx image)
  | .sgi => some (Raster.sgi image)
  | .im => some (Raster.im image)
  | .dds => some (Raster.dds image)
  | .ico => some (Icon.encode image)
  | .jpeg2000 | .icns | .webp | .avif | .eps | .pdf => none

end Chip8.Picture
