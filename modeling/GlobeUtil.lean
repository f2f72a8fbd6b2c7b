import GlobeUtil.Data.Str
import GlobeUtil.Data.StrMap
import GlobeUtil.Settings.Value
import GlobeUtil.Args.Key
import GlobeUtil.Args.Manager
import GlobeUtil.Args.Parse
import GlobeUtil.Args.CmdLine
import GlobeUtil.Args.Lookup
import GlobeUtil.Args.Log
import GlobeUtil.Args.ArgsList
import GlobeUtil.Args.Help
import GlobeUtil.Config.Options
import GlobeUtil.Config.RoundTrip
import GlobeUtil.Config.Read
import GlobeUtil.Config.Include
import GlobeUtil.Config.Store
import GlobeUtil.Args.Run
import GlobeUtil.Util.Hex
import GlobeUtil.Util.Shell
import GlobeUtil.Util.DirLock
import GlobeUtil.Util.DataDir
import GlobeUtil.Util.SettingsFile
import GlobeUtil.Util.Bytes
import GlobeUtil.Util.FdLimit
