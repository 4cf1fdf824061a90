import MetaParity.Files
import MetaParity.Image.Locate
import MetaParity.Text.Quoted

/-!
# Images

A file that carries metadata, with the range the metadata takes up in it. Images come from single files, or from all
files directly inside a directory.
-/

namespace MetaParity

structure Image where
  path : String
  kind : ImageKind
  bytes : Bytes
  extent : Extent
deriving DecidableEq, Inhabited

inductive ImageError where
  | unreadable (path : String) (error : FileError)
  | noMetadata (path : String) (reason : Malformed)
deriving DecidableEq, Inhabited

namespace ImageError

def message : ImageError → String
  | unreadable path error => s!"failed to read {path}: {error.message}"
  | noMetadata path reason => s!"{path} carries no metadata: {reason.message}"

/-- The error in words, with what lies behind it: the operating system's word is given once more. -/
def explanation : ImageError → String
  | unreadable path error => s!"{(unreadable path error).message}: {error.message}"
  | error => error.message

end ImageError

namespace Image

def metadata (image : Image) : Bytes :=
  image.extent.of image.bytes

def ofBytes (path : String) (bytes : Bytes) : Except ImageError Image :=
  match locate bytes with
  | .ok (kind, extent) => .ok { path, kind, bytes, extent }
  | .error reason => .error (.noMetadata path reason)

def load (files : Files) (path : String) : Except ImageError Image :=
  match files.read path with
  | .ok bytes => ofBytes path bytes
  | .error error => .error (.unreadable path error)

/-- The image at a path, or nothing where a file carries no metadata. -/
def load? (files : Files) (path : String) : Except ImageError (Option Image) :=
  match load files path with
  | .ok image => .ok (some image)
  | .error (.noMetadata _ _) => .ok none
  | .error error => .error error

/-- Every image directly inside a directory, in the order of their names; files without metadata are passed over. -/
def discover (files : Files) (directory : String) : Except ImageError (List Image) := do
  match files.filesIn directory with
  | .error error => throw (.unreadable directory error)
  | .ok names => return (← names.mapM fun name => load? files (Path.join directory name)).filterMap id

def tagged (image : Image) : String :=
  s!"MetadataImage \x7b path: {Text.quoted image.path}, kind: {image.kind.longName}, "
    ++ s!"metadata: {image.extent.start}..{image.extent.stop}, .. \x7d"

end Image

end MetaParity
