import IrodsFs.Basic
import IrodsFs.LocalLock
import IrodsFs.VPath
import IrodsFs.Xattr
import IrodsFs.Handle
import IrodsFs.State
import IrodsFs.Frame
import IrodsFs.Lifecycle
import IrodsFs.Release
import IrodsFs.Truncate
import IrodsFs.ReadOnly
import IrodsFs.Writer
import IrodsFs.GoText
import IrodsFs.GoUrl
import IrodsFs.Endpoint
import IrodsFs.IrodsUrl
import IrodsFs.Args
import IrodsFs.Config
import IrodsFs.WriteOrder
import IrodsFs.ReadWriteOrder
import IrodsFs.WriteCalls
import IrodsFs.WorkDirs
import IrodsFs.Read
import IrodsFs.Pipelines
import IrodsFs.Closed
import IrodsFs.Setattr
