import Jp2Render.CommandLine.Run
import Jp2Render.Failure

/-!
How the faults of all parts are shown.
-/

namespace Jp2Render

instance : Fault SizeFault where shown fault := .value fault.message
instance : Fault UnknownOutputFormat where shown fault := .value fault.message
instance : Fault RequestTextFault where shown fault := .value fault.message

instance : Fault UnknownBackend where
  shown fault := .ofMessage FailureKind.configuration.name fault.message

instance : Fault PictureFault where shown := PictureFault.shown
instance : Fault FileTree.TreeFault where shown := FileTree.TreeFault.shown
instance : Fault Configuration.UnknownHome where shown := Configuration.UnknownHome.shown
instance : Fault Configuration.SettingsFault where shown := Configuration.SettingsFault.shown

instance : Fault HeaderTextFault where
  shown := HeaderTextFault.shown
  cause? := HeaderTextFault.cause?

instance : Fault HeaderFault where
  shown := HeaderFault.shown
  cause? := HeaderFault.cause?

instance : Fault ConfigurationFault where
  shown := ConfigurationFault.shown
  cause? := ConfigurationFault.cause?

instance : Fault Failure where
  shown := Failure.shown
  cause? := Failure.cause?

end Jp2Render
