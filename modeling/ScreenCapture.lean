import ScreenCapture.Bitmap
import ScreenCapture.Bytes
import ScreenCapture.Clock.Manual
import ScreenCapture.Clock.Running
import ScreenCapture.Clock.Uneven
import ScreenCapture.Decimal
import ScreenCapture.Display.InMemory
import ScreenCapture.Display.Refusing
import ScreenCapture.Display.Scripted
import ScreenCapture.Display.Window
import ScreenCapture.Error
import ScreenCapture.Frame
import ScreenCapture.FrameRate
import ScreenCapture.Geometry
import ScreenCapture.Grab
import ScreenCapture.Grab.Files
import ScreenCapture.Host
import ScreenCapture.Json.Access
import ScreenCapture.Json.Basic
import ScreenCapture.Json.Printer
import ScreenCapture.Json.Reader
import ScreenCapture.Main
import ScreenCapture.Micros
import ScreenCapture.Monitor
import ScreenCapture.Options
import ScreenCapture.Options.Document
import ScreenCapture.Options.Value
import ScreenCapture.Overlay
import ScreenCapture.Pacer
import ScreenCapture.Proofs.Action
import ScreenCapture.Proofs.BitmapFile
import ScreenCapture.Proofs.BoundingBox
import ScreenCapture.Proofs.Cadence
import ScreenCapture.Proofs.Calls
import ScreenCapture.Proofs.CaptureSize
import ScreenCapture.Proofs.CatchUp
import ScreenCapture.Proofs.CheckedCoordinates
import ScreenCapture.Proofs.Contents
import ScreenCapture.Proofs.CoordinateLimits
import ScreenCapture.Proofs.Desktop
import ScreenCapture.Proofs.Frames
import ScreenCapture.Proofs.JsonText
import ScreenCapture.Proofs.LayoutLimits
import ScreenCapture.Proofs.Lifecycle
import ScreenCapture.Proofs.Location
import ScreenCapture.Proofs.LowestTerms
import ScreenCapture.Proofs.Mapping
import ScreenCapture.Proofs.Opening
import ScreenCapture.Proofs.OptionAssignments
import ScreenCapture.Proofs.OptionFields
import ScreenCapture.Proofs.OptionOrigins
import ScreenCapture.Proofs.OptionsDocument
import ScreenCapture.Proofs.PacerWidth
import ScreenCapture.Proofs.Pacing
import ScreenCapture.Proofs.PaletteBuffer
import ScreenCapture.Proofs.PointerCrop
import ScreenCapture.Proofs.PointerDrawing
import ScreenCapture.Proofs.PointerInfluence
import ScreenCapture.Proofs.PointerRecords
import ScreenCapture.Proofs.PointerReports
import ScreenCapture.Proofs.PrintedValues
import ScreenCapture.Proofs.RateTexts
import ScreenCapture.Proofs.Reading
import ScreenCapture.Proofs.Rectangles
import ScreenCapture.Proofs.Replies
import ScreenCapture.Proofs.Retrying
import ScreenCapture.Proofs.Run
import ScreenCapture.Proofs.Scaling
import ScreenCapture.Proofs.Selection
import ScreenCapture.Proofs.SizeTexts
import ScreenCapture.Proofs.Spelling
import ScreenCapture.Proofs.Stages
import ScreenCapture.Proofs.TextParts
import ScreenCapture.Proofs.Tick
import ScreenCapture.Proofs.Trace
import ScreenCapture.Proofs.TwoWorlds
import ScreenCapture.Proofs.Waiting
import ScreenCapture.Proofs.Watching
import ScreenCapture.Proofs.Width
import ScreenCapture.Proofs.WindowInside
import ScreenCapture.Proofs.WindowScale
import ScreenCapture.Recording
import ScreenCapture.Region
import ScreenCapture.Resolve
import ScreenCapture.Session
import ScreenCapture.Target
import ScreenCapture.Text.Blank
import ScreenCapture.Text.Numeral
import ScreenCapture.Text.Quoted
import ScreenCapture.Text.Unseen
import ScreenCapture.VideoSize
