import ProtocolCtf.Basic
import ProtocolCtf.Loader
import ProtocolCtf.Writer
import ProtocolCtf.RoundTrip
import ProtocolCtf.InProcess
import ProtocolCtf.Process
import ProtocolCtf.Harness
import ProtocolCtf.HarnessVerifier
import ProtocolCtf.Version
import ProtocolCtf.HarnessInvariants
