import CameraController.CircularBufferRefinement
import CameraController.RoundTrip
import CameraController.MessageHandler
import CameraController.Sessions
import CameraController.StateMachine
import CameraController.HandleLifetime
import CameraController.ObjectLifetime
import CameraController.LogDelivery
import CameraController.CommandObjects
import CameraController.EndToEnd
import CameraController.ExposureCount
import CameraController.HandleOwnership
import CameraController.OverflowedLogs
import CameraController.SentBytes
import CameraController.SocketOwnership
import CameraController.WakeUp
import CameraController.BufferSafety
import CameraController.CommandRoundTrip
import CameraController.ExposureTime
import CameraController.IntervalometerSpacing
import CameraController.PromptDispatch
import CameraController.RemoteCapture
import CameraController.Responsiveness
import CameraController.StuckFunctions
import CameraController.ConfigWidgets
import CameraController.DownloadFile
import CameraController.ExposureSetting
import CameraController.LogLines
import CameraController.Logger
import CameraController.MissedStop
import CameraController.RunArithmetic
import CameraController.StreamWrites
import CameraController.Mutexes
import CameraController.LogTurns
import CameraController.ReceiveProgress
import CameraController.DecoderMemory
import CameraController.HandlerObjects
import CameraController.StopEffect
import CameraController.ServiceRefinement
import CameraController.DownloadedPictures
import CameraController.RemoteTrigger
import CameraController.CaptureSimulation
import CameraController.Recovery
import CameraController.ReplyDelivery
