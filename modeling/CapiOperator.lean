import CapiOperator.Provider
import CapiOperator.Plan
import CapiOperator.CustomPlan
import CapiOperator.Upgrade
import CapiOperator.ScaleDown
import CapiOperator.UpgradeDrain
import CapiOperator.ManifestsDownloader
import CapiOperator.ManifestsConcurrency
