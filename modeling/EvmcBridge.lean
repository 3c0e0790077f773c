import EvmcBridge.Types
import EvmcBridge.State
import EvmcBridge.Revision
import EvmcBridge.Storage
import EvmcBridge.Refund
import EvmcBridge.Host
import EvmcBridge.Selfdestruct
import EvmcBridge.Call
import EvmcBridge.Run
import EvmcBridge.Config
import EvmcBridge.Transaction
