import GameSdk.TuningFork.Histogram
import GameSdk.TuningFork.Bucketing
import GameSdk.TuningFork.AutoRange
import GameSdk.TuningFork.EventsOnly
import GameSdk.TuningFork.DebugJSON
import GameSdk.Swappy.StdMap
import GameSdk.Swappy.SwappyVk
import GameSdk.Swappy.Registry
import GameSdk.Swappy.SwappyGL
import GameSdk.GameActivity.Surface
import GameSdk.GameActivity.Work
import GameSdk.GameActivity.Loader
import GameSdk.GameActivity.Input
import GameSdk.GameActivity.Events
import GameSdk.TuningFork.Clear
import GameSdk.TuningFork.Settings
import GameSdk.TuningFork.JniHelper
import GameSdk.Cert.IOPerformance
import GameSdk.Cert.IOReports
import GameSdk.Cert.MarchingCubes
import GameSdk.Cert.FillRate
import GameSdk.Bender.BenderBase
