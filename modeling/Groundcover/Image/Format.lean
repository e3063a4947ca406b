import Groundcover.Disk
import Groundcover.Text.Escape

/-!
Formats of image files. The extension of a file's name decides which format it is read as; two of
the formats that are known can be read.
-/

namespace Groundcover

inductive ImageFormat
  | png | jpeg | gif | webp | pnm | tiff | tga | dds | bmp | ico | hdr | openExr | farbfeld | avif
  | qoi
  deriving DecidableEq, Repr

namespace ImageFormat

def name : ImageFormat → String
  | png => "Png"
  | jpeg => "Jpeg"
  | gif => "Gif"
  | webp => "WebP"
  | pnm => "Pnm"
  | tiff => "Tiff"
  | tga => "Tga"
  | dds => "Dds"
  | bmp => "Bmp"
  | ico => "Ico"
  | hdr => "Hdr"
  | openExr => "OpenExr"
  | farbfeld => "Farbfeld"
  | avif => "Avif"
  | qoi => "Qoi"

/-- The extensions that name a format, in lower case. -/
def byExtension : List (String × ImageFormat) :=
  [("png", png), ("apng", png), ("jpg", jpeg), ("jpeg", jpeg), ("jfif", jpeg), ("gif", gif),
   ("webp", webp), ("pbm", pnm), ("pam", pnm), ("ppm", pnm), ("pgm", pnm), ("pnm", pnm),
   ("tif", tiff), ("tiff", tiff), ("tga", tga), ("dds", dds), ("bmp", bmp), ("ico", ico),
   ("hdr", hdr), ("exr", openExr), ("ff", farbfeld), ("avif", avif), ("qoi", qoi)]

/-- The format of an extension. Case does not matter in ASCII letters. -/
def ofExtension? (extension : List UInt8) : Option ImageFormat :=
  match Text.Utf8.decode? extension with
  | some text => byExtension.lookup (.ofList (text.toList.map Char.toLower))
  | none => none

end ImageFormat

/-- Why there is no image behind a url. -/
inductive ImageError
  | io (e : OsError)
  | noExtension
  | unknownExtension (extension : List UInt8)
  | unsupported (format : ImageFormat)
  | malformed (format : ImageFormat) (reason : String)
  | tooLarge
  deriving DecidableEq, Repr

namespace ImageError

/-- A file that ends before the image does. -/
def unexpectedEnd : ImageError := io (.other "unexpected end of file")

/-- A part of a file that is well formed but makes no sense. -/
def invalidData : ImageError := io (.other "invalid data")

def text : ImageError → String
  | io e => e.text
  | noExtension => "The image format could not be determined"
  | unknownExtension extension =>
    "The file extension \x60."
      ++ .ofList (Text.Escape.quoteSparing (Text.Utf8.lossy extension).toList)
      ++ "\x60 was not recognized as an image format"
  | unsupported format => "The image format " ++ format.name ++ " is not supported"
  | malformed format reason => "Format error decoding " ++ format.name ++ ": " ++ reason
  | tooLarge => "Memory limit exceeded"

end ImageError

namespace ImageFormat

/-- The format in which the file at a path is read. An empty extension is none. -/
def ofPath (p : Path) : Except ImageError ImageFormat :=
  match p.extension? with
  | none | some [] => .error .noExtension
  | some extension =>
    match ofExtension? extension with
    | some format => .ok format
    | none => .error (.unknownExtension extension)

end ImageFormat

end Groundcover
