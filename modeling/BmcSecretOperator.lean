import BmcSecretOperator.Api
import BmcSecretOperator.Backend
import BmcSecretOperator.Config
import BmcSecretOperator.Metrics
import BmcSecretOperator.VaultStore
import BmcSecretOperator.Instrumented
import BmcSecretOperator.VaultClient
import BmcSecretOperator.Routing
import BmcSecretOperator.Factory
import BmcSecretOperator.Cache
import BmcSecretOperator.Sync
import BmcSecretOperator.Status
import BmcSecretOperator.Reconcile
import BmcSecretOperator.Controller
import BmcSecretOperator.PassRelation
import BmcSecretOperator.Dispatch
import BmcSecretOperator.SyncReport
import BmcSecretOperator.RunInvariants
import BmcSecretOperator.VaultSync
import BmcSecretOperator.DrivenFactory
