import ScreenCapture.Host

namespace ScreenCapture

variable (error : CaptureError)

def Display.refusing : Display Unit where
  monitors := throw error
  virtualScreen := throw error
  findWindow _ := throw error
  windowRect _ := throw error
  clientRect _ := throw error
  openSource _ := throw error
  createOutline _ := throw error
  pumpOutline := pure ()
  release _ := pure ()

def Screen.refusing : Screen Unit where
  toDisplay := .refusing error
  depth := pure 0
  deviceScale := pure .identity
  allocateSurface _ := throw error
  blit _ := throw error
  readPalette _ := throw error
  pixels := throw error
  pointer := throw error
  drawPointer _ := throw error

def Screen.unsupported : Screen Unit := .refusing .unsupported

end ScreenCapture
