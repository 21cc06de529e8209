import Sdc11073.PyDict
import Sdc11073.Namespaces.Text
import Sdc11073.Namespaces.Helper
import Sdc11073.Roles.PatientContextProvider
import Sdc11073.ReferenceTest
