import TrainBdd.ResolverSteps
import TrainBdd.ResolveErrors
import TrainBdd.TcrRuns
import TrainBdd.TspaSteps
import TrainBdd.UrlFaithful
import TrainBdd.Keycloak
import TrainBdd.TrustListCache
import TrainBdd.ZoneManagerRuns
