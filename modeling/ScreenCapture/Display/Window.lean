import ScreenCapture.Host

namespace ScreenCapture

structure Window where
  title : String
  id : WindowId
  windowRect : Rect
  clientRect : Rect
deriving DecidableEq, Repr

namespace Window

def byTitle? (windows : List Window) (title : String) : Option Window :=
  windows.find? (·.title = title)

def byId (windows : List Window) (id : WindowId) : Result Window :=
  match windows.find? (·.id = id) with
  | some window => .ok window
  | none => .error (.platform (.message "invalid window handle"))

def move (title : String) (rect : Rect) : List Window → List Window
  | [] => []
  | window :: windows =>
    if window.title = title then { window with windowRect := rect } :: windows
    else window :: move title rect windows

end Window

end ScreenCapture
