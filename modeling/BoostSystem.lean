import BoostSystem.CodeOrder
import BoostSystem.CodeInterop
import BoostSystem.ConditionInterop
import BoostSystem.SystemInterop
import BoostSystem.DefaultCondition
import BoostSystem.NullCondition
import BoostSystem.DefaultCode
import BoostSystem.RoundTrip
import BoostSystem.ErrorSimd
import BoostSystem.ElementwiseKernels
import BoostSystem.FindKernel
import BoostSystem.CountKernel
import BoostSystem.StdThreads
import BoostSystem.ErrorStore
import BoostSystem.ErrorStoreRuns
import BoostSystem.BoostApi
import BoostSystem.CompareCodes
import BoostSystem.Allocator
import BoostSystem.CopyArray
import BoostSystem.BulkBuffers
import BoostSystem.Wraparound
import BoostSystem.StoredArrays
import BoostSystem.BulkRoutes
import BoostSystem.Lifecycle
import BoostSystem.BoundedCopies
import BoostSystem.DecimalText
import BoostSystem.MessageTables
import BoostSystem.ErrorInfo
import BoostSystem.CreateCodes
import BoostSystem.InternTable
import BoostSystem.ErrorStats
import BoostSystem.HashCodes
import BoostSystem.MessageBuffers
import BoostSystem.Pipelines
import BoostSystem.CodeStrings
import BoostSystem.MessageValues
import BoostSystem.Simulations
import BoostSystem.StandaloneStore
import BoostSystem.BatchMemory
import BoostSystem.ApiRuns
import BoostSystem.ApiBooks
import BoostSystem.ApiBlocks
import BoostSystem.ApiFrames
import BoostSystem.ApiRoutes
import BoostSystem.Trimming
import BoostSystem.Win32Messages
import BoostSystem.Win32Conditions
import BoostSystem.ResultPrograms
import BoostSystem.SystemErrors
import BoostSystem.HeaderStore
import BoostSystem.Asynchrony
import BoostSystem.Loading
import BoostSystem.LoadingRuns
import BoostSystem.SessionRuns
