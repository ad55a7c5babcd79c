import TvmDebugger.Python.Runtime
import TvmDebugger.Python.Regex
import TvmDebugger.TensorData.Basic
import TvmDebugger.TensorData.Annotate
import TvmDebugger.TensorData.Locate
import TvmDebugger.TensorData.Summary
import TvmDebugger.TensorData.Format
import TvmDebugger.TensorData.LocateOrder
import TvmDebugger.TensorData.LocateLine
import TvmDebugger.TensorData.PrintState
import TvmDebugger.TensorData.Buffer
import TvmDebugger.TensorData.Highlight
import TvmDebugger.TensorData.Validate
import TvmDebugger.Python.Collections
import TvmDebugger.UiConfig.CLIConfig
import TvmDebugger.UiConfig.Session
import TvmDebugger.UiConfig.Restart
import TvmDebugger.UiConfig.Shared
import TvmDebugger.Keras.Padding
