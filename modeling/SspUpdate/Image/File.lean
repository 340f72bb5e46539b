import SspUpdate.Files
import SspUpdate.Image
import SspUpdate.Log

/-!
# Image files

An image is loaded from a file. A missing file is told apart from one that
cannot be opened or read.
-/

namespace SspUpdate.Image

/-- The bytes of an image file, or why they cannot be had. -/
def readFile (files : Files) (path : String) : Except Error Bytes :=
  match files.find path with
  | .error .notFound => .error (.fileNotFound path)
  | .error e => .error (.cannotOpen path e.message)
  | .ok .directory => .error (.cannotRead path FileFault.isDirectory.message)
  | .ok (.file data) => .ok data

def load (files : Files) (path : String) : Except Error Image :=
  match readFile files path with
  | .error e => .error e
  | .ok data => ofBytes data

/-- What the log says about loading an image. -/
def loadLog (path : String) (loaded : Except Error Image) : List LogLine :=
  let found := match loaded with
    | .ok i =>
      [⟨.debug, Target.image, "Image " ++ i.header.variant.debug ++
        s!": {i.size} bytes, RAM stage {i.header.ramSize} bytes, " ++
        s!"main stage {i.mainStage.length} bytes, baud override {i.header.overrideBaud}"⟩]
    | .error _ => []
  ⟨.debug, Target.image, "Loading firmware from: " ++ path⟩ :: found

end SspUpdate.Image
