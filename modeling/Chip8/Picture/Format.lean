import Chip8.Folder
import Chip8.Picture.Icon
import Chip8.Picture.Jpeg.Block
import Chip8.Text.LowerCase

/-!
# Picture formats

The extension of a path, in lower case, names the format of the picture saved under it. Not every
format that has an extension can be written: some are only read, some need a writer that is
installed separately, and some have no pixels of the kind that a grey image is made of.
-/

namespace Chip8.Picture

inductive Format where
  | png | bmp | dib | ppm | tiff | gif | jpeg | jpeg2000 | tga | pcx | sgi | im | dds | ico | icns
  | webp | avif | eps | pdf
deriving DecidableEq, Repr

namespace Format

def name : Format → String
  | png => "PNG"
  | bmp => "BMP"
  | dib => "DIB"
  | ppm => "PPM"
  | tiff => "TIFF"
  | gif => "GIF"
  | jpeg => "JPEG"
  | jpeg2000 => "JPEG2000"
  | tga => "TGA"
  | pcx => "PCX"
  | sgi => "SGI"
  | im => "IM"
  | dds => "DDS"
  | ico => "ICO"
  | icns => "ICNS"
  | webp => "WEBP"
  | avif => "AVIF"
  | eps => "EPS"
  | pdf => "PDF"

/-- Why the format refuses an image without pixels, if it does. -/
def emptyError? : Format → Option Error
  | sgi | icns => none
  | pcx => some (.emptyPicture pcx.name)
  | webp => some .emptyFrame
  | avif => some .emptyCanvas
  | _ => some (.emptyPicture none)

/-- The most pixels that the format counts along a side, if there is a limit. -/
def maxSide? : Format → Option Nat
  | webp => some 16383
  | _ => none

/-- Why the format refuses an image, if it does. -/
def refusal? (f : Format) (image : Image) : Option Error :=
  if image.isEmpty then f.emptyError?
  else (f.maxSide?.filter (· < max image.width image.height)).map .sideLimit

end Format

inductive Support where
  | written (f : Format)
  | readOnly (name : String)
  /-- The format's writer has to be installed first. -/
  | writerMissing (name : String)
  /-- The format has no grey levels. -/
  | withoutGrey (name : String)
  /-- The format wants its pixels in another way. -/
  | otherPixels (name : String)
deriving DecidableEq, Repr

def formats : List (Support × List String) :=
  [(.written .png, [".png", ".apng"]),
   (.written .bmp, [".bmp"]),
   (.written .dib, [".dib"]),
   (.written .ppm, [".pbm", ".pgm", ".ppm", ".pnm", ".pfm"]),
   (.written .tiff, [".tif", ".tiff"]),
   (.written .gif, [".gif"]),
   (.written .jpeg, [".jfif", ".jpe", ".jpg", ".jpeg", ".mpo"]),
   (.written .jpeg2000, [".jp2", ".j2k", ".jpc", ".jpf", ".jpx", ".j2c"]),
   (.written .tga, [".tga", ".icb", ".vda", ".vst"]),
   (.written .pcx, [".pcx"]),
   (.written .sgi, [".bw", ".rgb", ".rgba", ".sgi"]),
   (.written .im, [".im"]),
   (.written .dds, [".dds"]),
   (.written .ico, [".ico"]),
   (.written .icns, [".icns"]),
   (.written .webp, [".webp"]),
   (.written .avif, [".avif", ".avifs"]),
   (.written .eps, [".eps", ".ps"]),
   (.written .pdf, [".pdf"]),
   (.readOnly "CUR", [".cur"]),
   (.readOnly "DCX", [".dcx"]),
   (.readOnly "FITS", [".fit", ".fits"]),
   (.readOnly "FLI", [".fli", ".flc"]),
   (.readOnly "FTEX", [".ftc", ".ftu"]),
   (.readOnly "GBR", [".gbr"]),
   (.readOnly "IPTC", [".iim"]),
   (.readOnly "MPEG", [".mpg", ".mpeg"]),
   (.readOnly "PCD", [".pcd"]),
   (.readOnly "PIXAR", [".pxr"]),
   (.readOnly "PSD", [".psd"]),
   (.readOnly "SUN", [".ras"]),
   (.readOnly "XPM", [".xpm"]),
   (.writerMissing "BUFR", [".bufr"]),
   (.writerMissing "GRIB", [".grib"]),
   (.writerMissing "HDF5", [".h5", ".hdf"]),
   (.writerMissing "WMF", [".wmf", ".emf"]),
   (.withoutGrey "MSP", [".msp"]),
   (.withoutGrey "XBM", [".xbm"]),
   (.withoutGrey "Palm", [".palm"]),
   (.otherPixels "BLP", [".blp"]),
   (.otherPixels "QOI", [".qoi"])]

/-- The support for the format of a path. A format that is only read is refused by its name. -/
def support (path : String) : Except Error Support :=
  let extension := Text.lower (Folder.extension path)
  match formats.find? fun (_, extensions) => extensions.contains extension with
  | none => .error (.unknownExtension extension)
  | some (.readOnly name, _) => .error (.readOnlyFormat name)
  | some (s, _) => .ok s

def Support.formatOf (s : Support) (image : Image) : Except Error Format :=
  match s with
  | written f =>
    match f.refusal? image with
    | some e => .error e
    | none => .ok f
  | readOnly name => .error (.readOnlyFormat name)
  | writerMissing name => .error (.writerMissing name)
  | withoutGrey name => .error (.greyRefused name)
  | otherPixels name => .error (.pixelsRefused name)

/-! ## Pixels -/

/-- What the pixels of a file are: grey levels, places in a table of the levels in use, or colours
of three equal parts. -/
inductive Mode where
  | grey | table | colour
deriving DecidableEq, Repr

def Mode.name : Mode → String
  | .grey => "L"
  | .table => "P"
  | .colour => "RGB"

def Format.mode : Format → Mode
  | .gif => .table
  | .webp => .colour
  | _ => .grey

/-- The image that is read from a file of the format. -/
def Format.shown (f : Format) (image : Image) : Image :=
  match f with
  | .gif => { image with rows := image.places }
  | .jpeg => { image with rows := Jpeg.pixels image }
  | .ico => Icon.largest image
  | _ => image

end Chip8.Picture
