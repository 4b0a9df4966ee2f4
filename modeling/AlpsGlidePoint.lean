import AlpsGlidePoint.Ps2
import AlpsGlidePoint.Profile
import AlpsGlidePoint.Framer
import AlpsGlidePoint.CommandMode
import AlpsGlidePoint.Init
import AlpsGlidePoint.InitSequences
import AlpsGlidePoint.RegisterAccess
import AlpsGlidePoint.Stream
import AlpsGlidePoint.Delivery
import AlpsGlidePoint.Touch
import AlpsGlidePoint.Dispatch
import AlpsGlidePoint.Gesture
import AlpsGlidePoint.Lift
import AlpsGlidePoint.Divisors
import AlpsGlidePoint.Latches
import AlpsGlidePoint.Swipe
import AlpsGlidePoint.Fields
import AlpsGlidePoint.Bitmap
import AlpsGlidePoint.Packets
import AlpsGlidePoint.Session
import AlpsGlidePoint.System
import AlpsGlidePoint.MultiPacket
import AlpsGlidePoint.SecondTouch
import AlpsGlidePoint.DragModes
import AlpsGlidePoint.BitmapRuns
import AlpsGlidePoint.Corners
import AlpsGlidePoint.HeldPacket
import AlpsGlidePoint.Trackstick
import AlpsGlidePoint.Remainders
import AlpsGlidePoint.Pointing
import AlpsGlidePoint.History
import AlpsGlidePoint.ModeGraph
import AlpsGlidePoint.Timers
